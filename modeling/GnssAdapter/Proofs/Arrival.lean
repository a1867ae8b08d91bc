import GnssAdapter.Proofs.Course
import Mathlib.Data.List.Induction

/-!
How a sequence of fragments arrives. What its first and its last fragment are told by decides where
it begins and ends among the actions of a run, and nothing but its fragments makes a run find any
measurements.
-/

namespace GnssAdapter

namespace MeasurementFragment

theorem isLast_iff {fragment : MeasurementFragment} :
    fragment.isLast = true ↔ fragment.sequenceNumber = fragment.sequenceLength :=
  beq_iff_eq

/-- The beginning of a sequence: one first fragment, then others. -/
structure Begins (first : MeasurementFragment) (fragments : List MeasurementFragment) : Prop where
  hnumber : first.sequenceNumber = 1
  hhead : ∀ fragment ∈ fragments.head?, fragment = first
  hnext : ∀ fragment ∈ fragments.tail, fragment.sequenceNumber ≠ 1

namespace Begins

variable {first fragment : MeasurementFragment} {earlier later seen : List MeasurementFragment}

theorem append_left (hbegins : Begins first (earlier ++ later)) : Begins first earlier where
  hnumber := hbegins.hnumber
  hhead fragment hfragment := by
    refine hbegins.hhead fragment ?_
    rw [List.head?_append]
    exact Option.mem_def.mpr (by rw [Option.mem_def.mp hfragment]; rfl)
  hnext fragment hmem := by
    refine hbegins.hnext fragment ?_
    cases earlier with
    | nil => cases hmem
    | cons head rest => exact List.mem_append_left _ hmem

/-- The next fragment is the first one, or follows it. -/
theorem next (hbegins : Begins first (seen ++ [fragment])) :
    seen = [] ∧ fragment = first ∨ seen ≠ [] ∧ fragment.sequenceNumber ≠ 1 := by
  cases seen with
  | nil => exact .inl ⟨rfl, hbegins.hhead fragment rfl⟩
  | cons head rest => exact .inr ⟨List.cons_ne_nil _ _, hbegins.hnext fragment (by simp)⟩

end Begins

/-- A sequence from its first fragment to its last, each of which is told by its number. -/
structure Whole (fragments : List MeasurementFragment) : Prop where
  hfirst : ∃ first, fragments.head? = some first ∧ first.sequenceNumber = 1
  hnext : ∀ fragment ∈ fragments.tail, fragment.sequenceNumber ≠ 1
  hbefore : ∀ fragment ∈ fragments.dropLast, fragment.isLast = false
  hlast : ∀ fragment ∈ fragments.getLast?, fragment.isLast = true

namespace Whole

variable {fragments : List MeasurementFragment}

/-- It is enough to tell the fragments in between, unless the first one or the last one is a sequence
by itself. -/
theorem of_between (hfirst : ∃ first, fragments.head? = some first ∧ first.sequenceNumber = 1)
    (hlast : ∀ fragment ∈ fragments.getLast?, fragment.isLast = true)
    (hbetween : ∀ fragment ∈ fragments.tail.dropLast,
      fragment.sequenceNumber ≠ 1 ∧ fragment.isLast = false)
    (halone : ∀ fragment ∈ fragments, fragment.sequenceNumber = 1 → fragment.isLast = true →
      fragments.length = 1) : Whole fragments := by
  obtain ⟨first, hhead, hnumber⟩ := hfirst
  obtain ⟨rest, rfl⟩ : ∃ rest, fragments = first :: rest := List.head?_eq_some_iff.mp hhead
  rcases rest.eq_nil_or_concat with rfl | ⟨inner, last, rfl⟩
  · exact ⟨⟨first, hhead, hnumber⟩, by simp, by simp, hlast⟩
  · rw [List.concat_eq_append] at hhead hlast hbetween halone ⊢
    rw [List.tail_cons, List.dropLast_concat] at hbetween
    have hends : last.isLast = true := hlast last (by rw [List.getLast?_cons]; simp)
    have hmany : (first :: (inner ++ [last])).length ≠ 1 := by simp
    refine ⟨⟨first, hhead, hnumber⟩, fun fragment hmem hone => ?_, fun fragment hmem => ?_, hlast⟩
    · rcases List.mem_append.mp hmem with hinner | hend
      · exact (hbetween fragment hinner).1 hone
      · rw [List.mem_singleton.mp hend] at hone
        exact hmany (halone last (by simp) hone hends)
    · rw [← List.cons_append, List.dropLast_concat] at hmem
      rcases List.mem_cons.mp hmem with rfl | hinner
      · exact Bool.eq_false_iff.mpr fun hend => hmany (halone fragment (by simp) hnumber hend)
      · exact (hbetween fragment hinner).2

/-- A sequence is its last fragment after the others. -/
theorem of_concat {before : List MeasurementFragment} {last : MeasurementFragment}
    (hwhole : Whole (before ++ [last])) :
    ∃ first, (before ++ [last]).head? = some first ∧ Begins first (before ++ [last]) ∧
      (∀ fragment ∈ before, fragment.isLast = false) ∧ last.isLast = true := by
  obtain ⟨⟨first, hhead, hnumber⟩, hnext, hbefore, hlast⟩ := hwhole
  rw [List.dropLast_concat] at hbefore
  rw [List.getLast?_concat] at hlast
  refine ⟨first, hhead, ⟨hnumber, fun fragment hfragment => ?_, hnext⟩, hbefore, hlast last rfl⟩
  exact (Option.some.inj (hhead.symm.trans hfragment)).symm

end Whole

end MeasurementFragment

theorem delivered_concat {actions : List AdapterAction} {action : AdapterAction}
    {fragment : MeasurementFragment} (hfragment : action.fragment? = some fragment) :
    delivered (actions ++ [action]) = delivered actions ++ [fragment] := by
  rw [delivered_append, delivered_singleton, hfragment, Option.toList_some]

theorem delivered_concat_of_other {actions : List AdapterAction} {action : AdapterAction}
    (hother : action.fragment? = none) :
    delivered (actions ++ [action]) = delivered actions := by
  rw [delivered_append, delivered_singleton, hother, Option.toList_none, List.append_nil]

/-- The last of some fragments comes with an action after which nothing is delivered. -/
theorem exists_of_delivered {actions : List AdapterAction} {before : List MeasurementFragment}
    {last : MeasurementFragment} (hsplit : delivered actions = before ++ [last]) :
    ∃ opening action rest, actions = opening ++ action :: rest ∧ delivered opening = before ∧
      action.fragment? = some last ∧ delivered rest = [] := by
  obtain ⟨opening, ending, rfl, hopening, hending⟩ := List.filterMap_eq_append_iff.mp hsplit
  obtain ⟨quiet, action, rest, rfl, hquiet, hfragment, hrest⟩ :=
    List.filterMap_eq_cons_iff.mp hending
  refine ⟨opening ++ quiet, action, rest, (List.append_assoc ..).symm, ?_, hfragment, hrest⟩
  rw [delivered_append, show delivered quiet = [] from List.filterMap_eq_nil_iff.mpr hquiet,
    List.append_nil]
  exact hopening

namespace Adapter

variable {σ : Type} [Environment σ]

/-- What a run leaves in the history, as far as it is looked for, the latest first. -/
def found {α : Type} (look : Entry → Option α) (adapter : Adapter σ)
    (actions : List AdapterAction) : List α :=
  (gained adapter.history (adapter.run actions).history).filterMap look

theorem found_append {α : Type} (look : Entry → Option α) (adapter : Adapter σ)
    (first second : List AdapterAction) :
    adapter.found look (first ++ second) =
      (adapter.run first).found look second ++ adapter.found look first := by
  unfold found
  rw [run_append, gained_split (adapter.history_suffix_run first)
    ((adapter.run first).history_suffix_run second), List.filterMap_append]

theorem found_nil {α : Type} (look : Entry → Option α) (adapter : Adapter σ) :
    adapter.found look [] = [] := by
  unfold found
  rw [run_nil, gained_self]
  rfl

theorem found_cons {α : Type} (look : Entry → Option α) (adapter : Adapter σ)
    (action : AdapterAction) (rest : List AdapterAction) :
    adapter.found look (action :: rest) =
      (adapter.act action).found look rest ++ adapter.found look [action] :=
  adapter.found_append look [action] rest

/-- Where nothing is delivered, nothing is handed on. -/
theorem found_of_silent {α : Type} {look : Entry → Option α}
    (hlook : ∀ entry : Entry, entry.handsOn = false → look entry = none) {adapter : Adapter σ}
    {actions : List AdapterAction} (hsilent : delivered actions = []) :
    adapter.found look actions = [] := by
  induction actions generalizing adapter with
  | nil => exact found_nil look adapter
  | cons action rest ih =>
      rw [delivered_cons action rest, delivered_singleton, List.append_eq_nil_iff,
        Option.toList_eq_nil_iff] at hsilent
      have hfirst : adapter.found look [action] = [] := filterMap_gained_of_other hlook hsilent.1
      rw [found_cons, ih hsilent.2, hfirst]
      rfl

/-- What a buffer holds is known after a run if it is known how each fragment and each other action
changes it. Nothing is found in the run if none of its fragments lets anything be found. -/
theorem gather_run {α : Type} {look : Entry → Option α}
    (hlook : ∀ entry : Entry, entry.handsOn = false → look entry = none) {start : Adapter σ}
    {keeps : Adapter σ → AdapterAction → Prop} (goes : List MeasurementFragment → Prop)
    (holds : List AdapterAction → Prop)
    (hinitial : ∀ {earlier later}, goes (earlier ++ later) → goes earlier) (hstart : holds [])
    (hother : ∀ {actions action}, holds actions → keeps (start.run actions) action →
      action.fragment? = none → holds (actions ++ [action]))
    (hnext : ∀ {actions action fragment}, holds actions → goes (delivered actions ++ [fragment]) →
      action.fragment? = some fragment →
        holds (actions ++ [action]) ∧ (start.run actions).found look [action] = [])
    {actions : List AdapterAction} (hkeeps : start.Throughout keeps actions)
    (hgoes : goes (delivered actions)) : holds actions ∧ start.found look actions = [] := by
  -- Taken from the end of the run, since an action is looked at after all those before it.
  induction actions using List.reverseRecOn with
  | nil => exact ⟨hstart, found_nil look start⟩
  | append_singleton actions action ih =>
      obtain ⟨hearlier, hlatest⟩ := throughout_concat.mp hkeeps
      rw [delivered_append, delivered_singleton] at hgoes
      obtain ⟨hholds, hnothing⟩ := ih hearlier (hinitial hgoes)
      rw [found_append, hnothing, List.append_nil]
      cases hfragment : action.fragment? with
      | none =>
          refine ⟨hother hholds hlatest hfragment, found_of_silent hlook ?_⟩
          rw [delivered_singleton, hfragment]
          rfl
      | some fragment =>
          rw [hfragment] at hgoes
          exact hnext hholds hgoes hfragment

theorem not_severs_of_fragment {adapter : Adapter σ} {action : AdapterAction}
    (hdelivers : action.fragment?.isSome = true) : ¬adapter.Severs action := by
  intro hsevers
  rw [hsevers.fragment?_eq] at hdelivers
  cases hdelivers

theorem not_severs_of_failure {adapter : Adapter σ} : ¬adapter.Severs (.handle (.error .other)) := by
  rintro ⟨⟩

/-- A connected adapter whose session has been started. -/
def startedAdapter : Adapter ScriptedEngine :=
  obligedAfter [.execute (.connect (.single .niRequest)), .execute (.startFix {})]

end Adapter

end GnssAdapter
