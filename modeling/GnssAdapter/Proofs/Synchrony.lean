import GnssAdapter.Adapter.Aiding
import GnssAdapter.Adapter.Inbound

/-!
Times that are read from clocks. They get into what the engine is asked and into what the location
engine is told, so that two adapters can be compared only as far as their clocks agree. Where they do
not, times are blurred, and nothing else is. Those that have been given are blurred along with those
that have been read, as a request or a report does not tell them apart.
-/

namespace GnssAdapter

/-- How well the clocks of two adapters agree. -/
inductive Synchrony where
  /-- They show the same. -/
  | exact
  /-- They agree to the millisecond. -/
  | milliseconds
  /-- They need not agree. -/
  | absent

namespace Synchrony

/-- Times since the first reading that may be read in place of each other. -/
def BootTimes : Synchrony → Duration → Duration → Prop
  | .exact, one, other => one = other
  | .milliseconds, one, other => one.toMilliseconds = other.toMilliseconds
  | .absent, _, _ => True

/-- Times of the wall clock that may be read in place of each other. -/
def UtcTimes : Synchrony → UInt64 → UInt64 → Prop
  | .exact, one, other | .milliseconds, one, other => one = other
  | .absent, _, _ => True

/-- Stamps that may be taken in place of each other. -/
def Stamps (synchrony : Synchrony) (one other : ApTimestamp) : Prop :=
  synchrony.BootTimes one.bootTime other.bootTime ∧ one.uncertaintyMs = other.uncertaintyMs

end Synchrony

/-! ### Requests -/

namespace Request

/-- A request without the times that may be those of a clock. -/
def timeless : Request → Request
  | .injectTime injection => .injectTime { injection with timeUtcMs := 0 }
  | .injectPosition injection => .injectPosition { injection with timestampUtcMs := none }
  | request => request

def blur (request : Request) : Synchrony → Request
  | .exact | .milliseconds => request
  | .absent => request.timeless

variable {synchrony : Synchrony}

/-- Time is injected in milliseconds. -/
theorem injectTime_blur {one other : Duration} (hsame : synchrony.BootTimes one other)
    (utcMs referenceMs : UInt64) (uncertaintyMs : UInt32) :
    (injectTime (.ofReference utcMs referenceMs uncertaintyMs one.toMilliseconds)).blur synchrony =
      (injectTime (.ofReference utcMs referenceMs uncertaintyMs other.toMilliseconds)).blur
        synchrony := by
  cases synchrony with
  | exact => rw [show one = other from hsame]
  | milliseconds => rw [show one.toMilliseconds = other.toMilliseconds from hsame]
  | absent => simp only [blur, timeless, TimeInjection.ofReference]

theorem injectPosition_blur {one other : UInt64} (hsame : synchrony.UtcTimes one other)
    (location : Location) (onDemand : Bool) :
    (injectPosition (.ofLocation { location with timestampMs := one } onDemand)).blur synchrony =
      (injectPosition (.ofLocation { location with timestampMs := other } onDemand)).blur
        synchrony := by
  cases synchrony with
  | exact | milliseconds => rw [show one = other from hsame]
  | absent => rfl

end Request

/-! ### Callbacks -/

def ApTimestamp.undated (timestamp : ApTimestamp) : ApTimestamp :=
  { timestamp with bootTime := {} }

namespace Callback

/-- A callback but for the time since the first reading that it was stamped with. -/
def undated : Callback → Callback
  | .position report =>
      .position
        { report with
          extended := { report.extended with
            apTimestamp := report.extended.apTimestamp.map .undated } }
  | .rawSet set =>
      .rawSet
        { set with
          header := { set.header with apTimestamp := set.header.apTimestamp.map .undated } }
  | callback => callback

/-- A callback without the times that may be those of a clock. -/
def timeless : Callback → Callback
  | .wwanFix location => .wwanFix { location with timestampMs := 0 }
  | .bestAvailableFix location extended technologies =>
      .bestAvailableFix { location with timestampMs := 0 } extended technologies
  | callback => callback.undated

def blur (callback : Callback) : Synchrony → Callback
  | .exact => callback
  | .milliseconds => callback.undated
  | .absent => callback.timeless

end Callback

variable {synchrony : Synchrony}

theorem Synchrony.Stamps.undated {one other : ApTimestamp} (hsame : synchrony.Stamps one other) :
    one.undated = other.undated := by
  unfold ApTimestamp.undated
  rw [hsame.2]

theorem Synchrony.Stamps.eq_of_exact {one other : ApTimestamp}
    (hsame : Synchrony.exact.Stamps one other) : one = other := by
  cases one
  cases other
  exact (ApTimestamp.mk.injEq ..).mpr hsame

/-- A report that depends on its stamp only by holding it blurs with the stamp. -/
theorem Callback.blur_of_undated (report : ApTimestamp → Callback)
    (hundated : ∀ stamp, (report stamp).undated = report stamp.undated)
    (htimeless : ∀ stamp, (report stamp).timeless = (report stamp).undated)
    {one other : ApTimestamp} (hsame : synchrony.Stamps one other) :
    (report one).blur synchrony = (report other).blur synchrony := by
  have halike : (report one).undated = (report other).undated := by
    rw [hundated, hundated, hsame.undated]
  cases synchrony with
  | exact => rw [hsame.eq_of_exact]
  | milliseconds => exact halike
  | absent => exact (htimeless one).trans (halike.trans (htimeless other).symm)

theorem PositionIndication.callback_blur (indication : PositionIndication) (unpropagated : Bool)
    {one other : ApTimestamp} (hsame : synchrony.Stamps one other) :
    (indication.callback one unpropagated).blur synchrony =
      (indication.callback other unpropagated).blur synchrony := by
  refine Callback.blur_of_undated (indication.callback · unpropagated) (fun stamp => ?_)
    (fun stamp => ?_) hsame <;>
    · unfold callback
      dsimp only
      split <;> rfl

theorem RawSet.stamp_blur (set : RawSet) {one other : ApTimestamp}
    (hsame : synchrony.Stamps one other) :
    (Callback.rawSet (set.stamp one)).blur synchrony =
      (Callback.rawSet (set.stamp other)).blur synchrony :=
  Callback.blur_of_undated (fun stamp => .rawSet (set.stamp stamp)) (fun _ => rfl) (fun _ => rfl)
    hsame

theorem PositionReply.callback_timeless (reply : PositionReply) (timestampMs : UInt64) :
    (reply.callback timestampMs).timeless = reply.callback 0 := by
  cases reply with
  | wwanPosition reply =>
      change Callback.wwanFix _ = .wwanFix _
      unfold WwanPositionReply.location
      split <;> rfl
  | bestAvailablePosition reply =>
      change (BestAvailableReply.callback _ _).timeless = BestAvailableReply.callback _ _
      unfold BestAvailableReply.callback
      split <;> rfl

theorem PositionReply.callback_blur (reply : PositionReply) {one other : UInt64}
    (hsame : synchrony.UtcTimes one other) :
    (reply.callback one).blur synchrony = (reply.callback other).blur synchrony := by
  cases synchrony with
  | exact | milliseconds => rw [show one = other from hsame]
  | absent => exact (reply.callback_timeless one).trans (reply.callback_timeless other).symm

/-! ### Entries -/

def Entry.blur (synchrony : Synchrony) : Entry → Entry
  | .posted handle request result => .posted handle (request.blur synchrony) result
  | .requested handle request answer => .requested handle (request.blur synchrony) answer
  | .notified callback => .notified (callback.blur synchrony)
  | entry => entry

theorem Entry.blur_exact : Entry.blur .exact = id := by
  funext entry
  cases entry <;> rfl

end GnssAdapter
