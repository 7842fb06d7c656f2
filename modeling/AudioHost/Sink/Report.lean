import AudioHost.Sink.Property
import AudioHost.Text.LetterCase.Lemmas

/-!
# What the stack says

Which states a report can name, and which readings the properties of a sink describe.
-/

set_option autoImplicit false

namespace AudioHost

namespace SinkState

variable {report : String} {state other : SinkState}

theorem mem_reportable_iff : state ∈ reportable ↔ state ≠ .disconnecting := by
  cases state <;> decide

private theorem agreeUpToCase_of_ofReport? (named : ofReport? report = some state) :
    Text.AgreeUpToCase report state.name := by
  have same := List.find?_some (named : reportable.find? _ = some state)
  exact Text.sameUpToCase_iff_agreeUpToCase.mp same

/-- No two states have names that differ only in case. -/
private theorem eq_of_agreeUpToCase_name (left : Text.AgreeUpToCase report state.name)
    (right : Text.AgreeUpToCase report other.name) : state = other := by
  have leftSame := Text.sameUpToCase_iff.mp (Text.sameUpToCase_iff_agreeUpToCase.mpr left)
  have rightSame := Text.sameUpToCase_iff.mp (Text.sameUpToCase_iff_agreeUpToCase.mpr right)
  have names := leftSame.symm.trans rightSame
  cases state <;> cases other <;> first | rfl | exact absurd names (by decide)

/-- A report names every state in any letter case, except the one that only the host knows. -/
theorem ofReport?_eq_some_iff :
    ofReport? report = some state ↔
      Text.AgreeUpToCase report state.name ∧ state ≠ .disconnecting := by
  constructor
  · intro named
    have listed : state ∈ reportable := List.mem_of_find?_eq_some named
    exact ⟨agreeUpToCase_of_ofReport? named, mem_reportable_iff.mp listed⟩
  · intro both
    obtain ⟨agree, reported⟩ := both
    cases named : ofReport? report with
    | none =>
        have unlike := List.find?_eq_none.mp named state (mem_reportable_iff.mpr reported)
        exact absurd (Text.sameUpToCase_iff_agreeUpToCase.mpr agree) unlike
    | some found =>
        rw [eq_of_agreeUpToCase_name (agreeUpToCase_of_ofReport? named) agree]

/-- The names of the states are plain ASCII, so a report with any other character names none. -/
private theorem isAscii_of_ofReport? (named : ofReport? report = some state) :
    ∀ letter ∈ report.toList, letter.toNat < 128 := by
  have plain :
      (state.name.toList.map Char.toLower).all (fun letter => letter.toNat < 128) = true := by
    cases state <;> decide
  intro letter member
  have same := Text.sameUpToCase_iff.mp
    (Text.sameUpToCase_iff_agreeUpToCase.mpr (agreeUpToCase_of_ofReport? named))
  have bound := List.all_eq_true.mp plain letter.toLower (same ▸ List.mem_map_of_mem member)
  rw [decide_eq_true_iff, Text.toNat_toLower] at bound
  split at bound <;> omega

end SinkState

namespace Reading

theorem ofReport_eq_known_iff {report : String} {state : SinkState} :
    ofReport report = .known state ↔
      Text.AgreeUpToCase report state.name ∧ state ≠ .disconnecting := by
  rw [← SinkState.ofReport?_eq_some_iff, ofReport]
  cases SinkState.ofReport? report <;> simp

theorem ofReport_eq_invalid_iff {report : String} :
    ofReport report = .invalid ↔
      ∀ state : SinkState, Text.AgreeUpToCase report state.name → state = .disconnecting := by
  unfold ofReport
  cases named : SinkState.ofReport? report with
  | none =>
      simp only [true_iff]
      intro state agree
      refine Classical.byContradiction fun reported => ?_
      rw [SinkState.ofReport?_eq_some_iff.mpr ⟨agree, reported⟩] at named
      cases named
  | some state =>
      obtain ⟨agree, reported⟩ := SinkState.ofReport?_eq_some_iff.mp named
      simp only [reduceCtorEq, false_iff]
      exact fun unnamed => reported (unnamed state agree)

theorem ofReport_of_not_ascii {report : String}
    (foreign : ∃ letter ∈ report.toList, 128 ≤ letter.toNat) : ofReport report = .invalid := by
  obtain ⟨letter, member, high⟩ := foreign
  unfold ofReport
  cases named : SinkState.ofReport? report with
  | none => rfl
  | some state =>
      have low := SinkState.isAscii_of_ofReport? named letter member
      omega

theorem state_ofReport_ne_disconnecting (report : String) :
    (ofReport report).state ≠ .disconnecting := by
  unfold ofReport
  cases named : SinkState.ofReport? report with
  | none => exact SinkState.noConfusion
  | some state => exact (SinkState.ofReport?_eq_some_iff.mp named).2

end Reading

namespace SinkProperty

variable {properties : List SinkProperty} {property : SinkProperty} {described : Reading}

/-- What the properties of a sink say about its state: the first one called `State` counts. -/
inductive Describes : List SinkProperty → Reading → Prop where
  | silent {properties : List SinkProperty}
      (unnamed : ∀ property ∈ properties, property.name.text ≠ "State") :
      Describes properties .invalid
  | recognized {before after : List SinkProperty} {property : SinkProperty} {state : SinkState}
      (unnamed : ∀ other ∈ before, other.name.text ≠ "State")
      (named : property.name.text = "State")
      (agree : Text.AgreeUpToCase property.value.text state.name)
      (reported : state ≠ .disconnecting) :
      Describes (before ++ property :: after) (.known state)
  | unrecognized {before after : List SinkProperty} {property : SinkProperty}
      (unnamed : ∀ other ∈ before, other.name.text ≠ "State")
      (named : property.name.text = "State")
      (unlike : ∀ state : SinkState, Text.AgreeUpToCase property.value.text state.name →
        state = .disconnecting) :
      Describes (before ++ property :: after) .invalid

theorem tellsState_iff : property.tellsState = true ↔ property.name.text = "State" :=
  beq_iff_eq

private theorem reading_of_first {before after : List SinkProperty}
    (unnamed : ∀ other ∈ before, other.name.text ≠ "State")
    (named : property.name.text = "State") :
    reading (before ++ property :: after) = Reading.ofReport property.value.text := by
  have first : (before ++ property :: after).find? tellsState = some property := by
    refine List.find?_eq_some_iff_append.mpr ⟨tellsState_iff.mpr named, before, after, rfl, ?_⟩
    intro other member
    have untold := fun tells => unnamed other member (tellsState_iff.mp tells)
    simpa using untold
  simp only [reading, first]

theorem reading_eq_iff_describes :
    reading properties = described ↔ Describes properties described := by
  constructor
  · intro read
    subst read
    cases first : properties.find? tellsState with
    | none =>
        have unnamed := List.find?_eq_none.mp first
        simp only [reading, first]
        exact .silent fun property member named =>
          unnamed property member (tellsState_iff.mpr named)
    | some property =>
        obtain ⟨tells, before, after, rfl, earlier⟩ := List.find?_eq_some_iff_append.mp first
        have named := tellsState_iff.mp tells
        have unnamed : ∀ other ∈ before, other.name.text ≠ "State" := by
          intro other member otherNamed
          have told := tellsState_iff.mpr otherNamed
          simpa [told] using earlier other member
        rw [reading_of_first unnamed named]
        cases value : Reading.ofReport property.value.text with
        | invalid => exact .unrecognized unnamed named (Reading.ofReport_eq_invalid_iff.mp value)
        | known state =>
            obtain ⟨agree, reported⟩ := Reading.ofReport_eq_known_iff.mp value
            exact .recognized unnamed named agree reported
  · intro describes
    cases describes with
    | silent unnamed =>
        have untold : properties.find? tellsState = none :=
          List.find?_eq_none.mpr fun property member tells =>
            unnamed property member (tellsState_iff.mp tells)
        simp only [reading, untold]
    | recognized unnamed named agree reported =>
        rw [reading_of_first unnamed named]
        exact Reading.ofReport_eq_known_iff.mpr ⟨agree, reported⟩
    | unrecognized unnamed named unlike =>
        rw [reading_of_first unnamed named]
        exact Reading.ofReport_eq_invalid_iff.mpr unlike

theorem state_reading_ne_disconnecting (properties : List SinkProperty) :
    (reading properties).state ≠ .disconnecting := by
  have describes := reading_eq_iff_describes.mp (rfl : reading properties = _)
  generalize reading properties = described at describes ⊢
  cases describes with
  | silent _ | unrecognized _ _ _ => exact SinkState.noConfusion
  | recognized _ _ _ reported => exact reported

end SinkProperty

end AudioHost
