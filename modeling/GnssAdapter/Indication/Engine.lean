import GnssAdapter.Aiding.Data
import GnssAdapter.Message.Indication
import GnssAdapter.Report.Callback

/-!
What the engine tells of itself: deleted aiding data, the ionosphere, its clock offsets, leap
seconds, and the state of its constellations.
-/

namespace GnssAdapter

/-- The data that a deletion event is about, and its constellation. -/
def DeletionEvent.target : DeletionEvent → AidingSatelliteData × AidingConstellation
  | .gpsEphemeris => (.ephemeris, .gps)
  | .glonassEphemeris => (.ephemeris, .glonass)
  | .beidouEphemeris => (.ephemeris, .beidou)
  | .galileoEphemeris => (.ephemeris, .galileo)
  | .qzssEphemeris => (.ephemeris, .qzss)
  | .gpsPolynomial => (.poly, .gps)
  | .glonassPolynomial => (.poly, .glonass)
  | .beidouPolynomial => (.poly, .beidou)
  | .galileoPolynomial => (.poly, .galileo)
  | .qzssPolynomial => (.poly, .qzss)
  | .gpsIonosphere => (.ionosphere, .gps)
  | .glonassIonosphere => (.ionosphere, .glonass)
  | .beidouIonosphere => (.ionosphere, .beidou)
  | .galileoIonosphere => (.ionosphere, .galileo)
  | .qzssIonosphere => (.ionosphere, .qzss)

/-- The data deleted by a set of events, unless there is none. -/
def AidingData.deletedBy? (events : Mask DeletionEvent) : Option AidingData :=
  match events.flags.map DeletionEvent.target with
  | [] => none
  | targets =>
      some
        { satelliteData := .ofList (targets.map (·.1))
          constellations := .ofList (targets.map (·.2)) }

namespace EventReportIndication

/-- The ionospheric model; BeiDou has two tags, of which reports use one. -/
def ionosphere? (indication : EventReportIndication) : Option KlobucharModel :=
  indication.ionosphere.map fun model =>
    { constellation := if model.dataSource = .compass then .bds else model.dataSource
      systemTime := indication.gpsSystemTime
      alpha := model.alpha
      beta := model.beta }

/-- Leap seconds and the GLONASS clock offset, told only with the time that they belong to. -/
def additionalInfo? (indication : EventReportIndication) : Option AdditionalSystemInfo :=
  if indication.leapSeconds.isNone && indication.tauC.isNone then none
  else
    indication.gpsSystemTime.map fun time =>
      { systemTime := some time, leapSeconds := indication.leapSeconds, tauC := indication.tauC }

def callbacks (indication : EventReportIndication) : List Callback :=
  ((AidingData.deletedBy? indication.eventReport).map Callback.aidingDataDeleted).toList ++
    (indication.ionosphere?.map Callback.ionosphere).toList ++
    (indication.additionalInfo?.map Callback.additionalSystemInfo).toList

end EventReportIndication

namespace NextLeapSecond

/-- The change of leap seconds, if all of it is known. -/
def change? (next : NextLeapSecond) : Option LeapSecondChange := do
  let time ← next.nextEventTime
  let before ← next.currentLeapSeconds
  let after ← next.nextLeapSeconds
  some
    { gpsWeek := time.week
      gpsTimeOfWeekMs := time.towMs
      leapSecondsBefore := before
      leapSecondsAfter := after }

end NextLeapSecond

namespace SystemInfoIndication

def info (indication : SystemInfoIndication) : LocationSystemInfo :=
  match indication.systemInfo, indication.nextLeapSecondInfo with
  | .nextLeapSecondInfo, some next =>
      { currentLeapSeconds := next.currentLeapSeconds, leapSecondChange := next.change? }
  | _, _ => {}

/-- System information is told unless it is empty. -/
def callbacks (indication : SystemInfoIndication) : List Callback :=
  if indication.info.isEmpty then [] else [.systemInfo indication.info]

end SystemInfoIndication

namespace BlacklistReply

/-- The blacklist in force; a constellation that is not named has none. -/
def blacklist (reply : BlacklistReply) : SatelliteBlacklist where
  glonassBlacklist := reply.glonassBlacklist.getD 0
  bdsBlacklist := reply.bdsBlacklist.getD 0
  qzssBlacklist := reply.qzssBlacklist.getD 0
  galileoBlacklist := reply.galileoBlacklist.getD 0

def callbacks (reply : BlacklistReply) : List Callback :=
  if reply.status.isSuccess then [.blacklist reply.blacklist] else []

end BlacklistReply

namespace ConstellationReply

/-- The constellations that a reply names, with their states. -/
def states (reply : ConstellationReply) : List (ControlledConstellation × ConstellationStatus) :=
  (reply.glonass.map (ControlledConstellation.glo, ·)).toList ++
    (reply.bds.map (ControlledConstellation.bds, ·)).toList ++
    (reply.qzss.map (ControlledConstellation.qzss, ·)).toList ++
    (reply.galileo.map (ControlledConstellation.gal, ·)).toList

/-- The enabled constellations and the disabled ones; one that is not named is neither. -/
def config (reply : ConstellationReply) : ConstellationConfig :=
  let (enabled, disabled) := reply.states.partition (·.2.isEnabled)
  { enabled := .ofList (enabled.map (·.1)), blacklisted := .ofList (disabled.map (·.1)) }

def callbacks (reply : ConstellationReply) : List Callback :=
  if reply.status.isSuccess then [.constellations reply.config] else []

end ConstellationReply

end GnssAdapter
