import GnssAdapter.Clock
import GnssAdapter.Event.Mask
import GnssAdapter.Message.Answer
import GnssAdapter.Message.Handle
import GnssAdapter.Message.Request

/-!
The surroundings of an adapter: the transport to the remote engine, and the clocks.

The surroundings are a state that every call may change. Nothing is assumed of the answers, so a
statement about every environment is one about every behaviour of engine and transport.
-/

namespace GnssAdapter

/-- What came back for a request within its time, and how long that took. -/
structure Reply where
  /-- Missing if nothing came in time. -/
  answer : Option Answer
  elapsedMs : Float

class Environment (σ : Type) where
  connect : σ → Except ClientError Handle × σ
  disconnect : Handle → σ → Except ClientError Unit × σ
  /-- Sends a request whose response is not waited for. -/
  post : Handle → Request → σ → Except ClientError Unit × σ
  /-- Sends a request and waits for the response, but not longer than a number of milliseconds. -/
  request : Handle → Request → UInt64 → σ → Reply × σ
  /-- Registers an event mask with or without master rights; tells whether it was accepted. -/
  register : Handle → Mask NativeEvent → Bool → σ → Bool × σ
  /-- Which of some messages the engine understands: bit `i` of the answer is about message `i`. -/
  probe : Handle → List MessageId → σ → Except ClientError UInt64 × σ
  /-- Time since this clock was first read in the process, which may be this time. -/
  readBootTime : σ → Duration × σ
  /-- Milliseconds of UTC; zero before 1970. -/
  readUtc : σ → UInt64 × σ

end GnssAdapter
