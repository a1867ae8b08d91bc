import GnssAdapter.Proofs.Standing

/-!
What the history of an adapter tells about its latest connection: the mask that the transport has
last accepted, and whether the negotiation has found the engine to measure.
-/

namespace GnssAdapter

namespace Entry

def opensConnection : Entry → Bool
  | .connected (.ok _) => true
  | _ => false

/-- The mask of a registration that the transport has accepted. -/
def acceptedMask? : Entry → Option (Mask NativeEvent)
  | .registered _ mask _ true => some mask
  | _ => none

/-- Whether the engine has taken a subscription of measurements, at once or for later. -/
def measurementTaken? : Entry → Option Bool
  | .requested _ (.setReportSubscription subscription) answer =>
      if subscription.measurementReport.isSome then some (answer.any Answer.isAccepted) else none
  | _ => none

/-- The entry that follows the negotiation's question whether the engine measures. -/
def endsMeasurementProbe : Entry → Bool
  | .probed .. => true
  | _ => false

end Entry

/-- What a history gains in two stages is of one kind if each stage gains only that kind. -/
theorem appended_trans {kind : Entry → Prop} {earlier middle later : List Entry}
    (hfirst : ∃ entries, middle = entries ++ earlier ∧ ∀ entry ∈ entries, kind entry)
    (hsecond : ∃ entries, later = entries ++ middle ∧ ∀ entry ∈ entries, kind entry) :
    ∃ entries, later = entries ++ earlier ∧ ∀ entry ∈ entries, kind entry := by
  obtain ⟨first, rfl, hfirst⟩ := hfirst
  obtain ⟨second, rfl, hsecond⟩ := hsecond
  exact ⟨second ++ first, (List.append_assoc ..).symm, List.forall_mem_append.mpr ⟨hsecond, hfirst⟩⟩

/-- The part of a history that belongs to the latest connection. -/
def connectionOf (history : List Entry) : List Entry :=
  history.takeWhile (!·.opensConnection)

/-- The mask last accepted on the latest connection. -/
def acceptedMask (history : List Entry) : Mask NativeEvent :=
  ((connectionOf history).findSome? Entry.acceptedMask?).getD ∅

/-- The answer to the latest subscription of measurements on the latest connection. -/
def measurementTaken (history : List Entry) : Bool :=
  ((connectionOf history).findSome? Entry.measurementTaken?).getD false

/-- The engine has taken the measurement probe of the latest connection's negotiation, and no
registration has been accepted since. -/
def measurementProven : List Entry → Bool
  | [] => false
  | entry :: earlier =>
      if entry.opensConnection || entry.acceptedMask?.isSome then false
      else (entry.endsMeasurementProbe && measurementTaken earlier) || measurementProven earlier

/-- The mask that the transport and the negotiation between them account for. -/
def believedMask (history : List Entry) : Mask NativeEvent :=
  if measurementProven history then acceptedMask history ∪ .single .measurementReport
  else acceptedMask history

section

variable {entry : Entry} (history : List Entry)

theorem connectionOf_cons (hgoes : entry.opensConnection = false) :
    connectionOf (entry :: history) = entry :: connectionOf history :=
  List.takeWhile_cons_of_pos (by simpa using hgoes)

/-- What is told last of the latest connection is told by the entry, or before it. -/
theorem findSome?_connectionOf_cons {α : Type} (pick : Entry → Option α)
    (hgoes : entry.opensConnection = false) :
    (connectionOf (entry :: history)).findSome? pick =
      (pick entry).or ((connectionOf history).findSome? pick) := by
  rw [connectionOf_cons history hgoes, List.findSome?_cons]
  cases pick entry <;> rfl

theorem findSome?_connectionOf_append {α : Type} {pick : Entry → Option α} {entries : List Entry}
    (hother : ∀ entry ∈ entries, entry.opensConnection = false ∧ pick entry = none) :
    (connectionOf (entries ++ history)).findSome? pick =
      (connectionOf history).findSome? pick := by
  induction entries with
  | nil => rfl
  | cons entry rest ih =>
      obtain ⟨hgoes, hnone⟩ := hother entry (.head _)
      rw [List.cons_append, findSome?_connectionOf_cons _ pick hgoes, hnone, Option.none_or]
      exact ih fun other hmem => hother other (.tail _ hmem)

theorem acceptedMask_cons (hgoes : entry.opensConnection = false) :
    acceptedMask (entry :: history) = entry.acceptedMask?.getD (acceptedMask history) := by
  unfold acceptedMask
  rw [connectionOf_cons history hgoes, List.findSome?_cons]
  cases entry.acceptedMask? <;> rfl

theorem measurementTaken_cons (hgoes : entry.opensConnection = false) :
    measurementTaken (entry :: history) =
      entry.measurementTaken?.getD (measurementTaken history) := by
  unfold measurementTaken
  rw [connectionOf_cons history hgoes, List.findSome?_cons]
  cases entry.measurementTaken? <;> rfl

theorem measurementProven_cons (hgoes : entry.opensConnection = false)
    (hfree : entry.acceptedMask? = none) :
    measurementProven (entry :: history) =
      ((entry.endsMeasurementProbe && measurementTaken history) || measurementProven history) := by
  simp [measurementProven, hgoes, hfree]

/-- An entry that has nothing to do with registrations leaves the believed mask as it is. -/
theorem believedMask_cons (hgoes : entry.opensConnection = false)
    (hfree : entry.acceptedMask? = none) (hasks : entry.endsMeasurementProbe = false) :
    believedMask (entry :: history) = believedMask history := by
  unfold believedMask
  rw [measurementProven_cons history hgoes hfree, acceptedMask_cons history hgoes, hasks, hfree]
  rfl

theorem believedMask_registered (handle : Handle) (mask : Mask NativeEvent)
    (isMaster accepted : Bool) :
    believedMask (.registered handle mask isMaster accepted :: history) =
      if accepted then mask else believedMask history := by
  cases accepted with
  | false => exact believedMask_cons history rfl rfl rfl
  | true =>
      unfold believedMask
      rw [acceptedMask_cons history rfl]
      rfl

theorem believedMask_probed (handle : Handle) (messages : List MessageId)
    (result : Except ClientError UInt64) :
    believedMask (.probed handle messages result :: history) =
      if measurementTaken history then acceptedMask history ∪ .single .measurementReport
      else believedMask history := by
  unfold believedMask
  rw [measurementProven_cons history rfl rfl, acceptedMask_cons history rfl]
  cases measurementTaken history <;> rfl

end

/-- Registrations aside, an exchange on an open connection is its request. -/
theorem Standing.exchange_filter {standing : Standing} {handle : Handle} {request : Request}
    {answer : Option Answer} {keeps : Entry → Bool}
    (hopen : standing.state.handle = some handle) (accepted : Bool)
    (hregistered : ∀ handle mask isMaster accepted,
      keeps (.registered handle mask isMaster accepted) = false)
    (hrequested : keeps (.requested handle request answer) = true) :
    ∃ entries, (standing.exchange request answer accepted).history =
        entries ++ standing.history ∧
      entries.filter keeps = [.requested handle request answer] := by
  have hrequest : [Entry.requested handle request answer].filter keeps =
      [.requested handle request answer] :=
    List.filter_cons_of_pos hrequested
  have hexchanged := standing.exchanged request answer accepted
  generalize standing.exchange request answer accepted = after at hexchanged ⊢
  cases hexchanged with
  | closed hclosed => exact nomatch hclosed.symm.trans hopen
  | asked hstill | kept hstill =>
      obtain rfl := Option.some.inj (hopen.symm.trans hstill)
      exact ⟨[_], rfl, hrequest⟩
  | watched hstill =>
      obtain rfl := Option.some.inj (hopen.symm.trans hstill)
      exact ⟨[_, _], rfl, (List.filter_cons_of_neg (by rw [hregistered]; simp)).trans hrequest⟩

end GnssAdapter
