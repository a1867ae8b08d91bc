import GnssAdapter.Enumeration

/-!
Data connections that the engine asks for, and requests for a Wi-Fi assisted position.
-/

namespace GnssAdapter

/-- What a data call is wanted for. -/
inductive AgpsType where
  | any | supl | suplEs | wwanAny | wifi
  deriving DecidableEq

instance : Enumeration AgpsType where
  names := [
    (.any, "Any"),
    (.supl, "Supl"),
    (.suplEs, "SuplEs"),
    (.wwanAny, "WwanAny"),
    (.wifi, "Wifi")]

/-- The address family of an open data call. -/
inductive AgpsBearer where
  | invalid | ipv4 | ipv6 | ipv4v6
  deriving DecidableEq

instance : Enumeration AgpsBearer where
  names := [
    (.invalid, "Invalid"),
    (.ipv4, "Ipv4"),
    (.ipv6, "Ipv6"),
    (.ipv4v6, "Ipv4v6")]

inductive WwanType where
  | internet | agnss | agnssEmergency | other
  deriving DecidableEq

instance : Enumeration WwanType where
  names := [
    (.internet, "Internet"),
    (.agnss, "Agnss"),
    (.agnssEmergency, "AgnssEmergency"),
    (.other, "Other")]

inductive BearerType where
  | wwan | wlan
  deriving DecidableEq

instance : Enumeration BearerType where
  names := [
    (.wwan, "Wwan"),
    (.wlan, "Wlan")]

inductive ServerRequestType where
  | opening | closing
  deriving DecidableEq

instance : Enumeration ServerRequestType where
  names := [
    (.opening, "Open"),
    (.closing, "Close")]

inductive OdcpiRequestKind where
  | start | stop
  deriving DecidableEq

instance : Enumeration OdcpiRequestKind where
  names := [
    (.start, "Start"),
    (.stop, "Stop")]

/-- The engine wants coarse positions, found with the help of Wi-Fi. -/
structure OdcpiRequest where
  requestType : OdcpiRequestKind
  isEmergency : Bool
  intervalMs : Option UInt32

end GnssAdapter
