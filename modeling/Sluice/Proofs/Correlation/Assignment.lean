import Sluice.Correlation.Assigner
import Sluice.Proofs.Correlation.Templates

/-! # The correlation id of a message

A message gets the text of the template as its correlation id, with the texts of the model in the
places of the names as they are, even if they look like placeholders themselves. That takes a text
for every name, and an id that a message accepts. That the pattern is a template was found out
before, when the assigner was made.
-/

namespace Sluice

namespace Template

/-- What stands in the place of a segment: a literal itself, and for a name what the model has under
it. -/
def segmentText (model : Keyed String) : Segment → String
  | .literal text => text
  | .placeholder name => (model.get? name).getD ""

def text (t : Template) (model : Keyed String) : String :=
  String.join (t.segments.map (segmentText model))

/-- The model has a text under the name of each of the placeholders. -/
def IsFilled (model : Keyed String) (segments : List Segment) : Prop :=
  ∀ name, .placeholder name ∈ segments → (model.get? name).isSome

/-- The leftmost placeholder for whose name the model has no text. -/
def FirstGap (model : Keyed String) (segments : List Segment) (name : String) : Prop :=
  ∃ before behind, segments = before ++ .placeholder name :: behind ∧ IsFilled model before ∧
    model.get? name = none

section Render

variable {model : Keyed String} {segment : Segment} {segments rest : List Segment}
  {pattern name : String}

theorem isFilled_cons :
    IsFilled model (segment :: rest) ↔ IsFilled model [segment] ∧ IsFilled model rest := by
  simp only [IsFilled, List.mem_cons, List.not_mem_nil, or_false, or_imp, forall_and]

theorem FirstGap.cons (hgap : FirstGap model rest name) (h : IsFilled model [segment]) :
    FirstGap model (segment :: rest) name := by
  obtain ⟨before, behind, rfl, hbefore, hnone⟩ := hgap
  exact ⟨segment :: before, behind, rfl, isFilled_cons.mpr ⟨h, hbefore⟩, hnone⟩

theorem isFilled_or_firstGap (model : Keyed String) (segments : List Segment) :
    IsFilled model segments ∨ ∃ name, FirstGap model segments name := by
  induction segments with
  | nil => exact .inl (by simp [IsFilled])
  | cons segment rest ih =>
      by_cases h : IsFilled model [segment]
      · exact ih.imp (fun hrest => isFilled_cons.mpr ⟨h, hrest⟩)
          fun ⟨name, hgap⟩ => ⟨name, hgap.cons h⟩
      · cases segment with
        | literal text => exact absurd (by simp [IsFilled]) h
        | placeholder name =>
            have hnone : model.get? name = none := by simpa [IsFilled] using h
            exact .inr ⟨name, [], rest, rfl, by simp [IsFilled], hnone⟩

theorem FirstGap.not_isFilled (hgap : FirstGap model segments name) :
    ¬ IsFilled model segments := by
  obtain ⟨before, behind, rfl, -, hnone⟩ := hgap
  intro hfilled
  have hsome := hfilled name (by simp)
  simp [hnone] at hsome

theorem renderSegments_cons (h : IsFilled model [segment]) :
    renderSegments pattern model (segment :: rest) =
      (renderSegments pattern model rest).map (segmentText model segment ++ ·) := by
  cases segment with
  | literal text => rfl
  | placeholder name =>
      obtain ⟨value, hvalue⟩ := Option.isSome_iff_exists.mp (h name (List.mem_singleton_self _))
      simp only [renderSegments, segmentText, hvalue, Option.getD_some]

theorem renderSegments_of_isFilled (h : IsFilled model segments) :
    renderSegments pattern model segments =
      .ok (String.join (segments.map (segmentText model))) := by
  induction segments with
  | nil => simp [renderSegments]
  | cons segment rest ih =>
      obtain ⟨hsegment, hrest⟩ := isFilled_cons.mp h
      rw [renderSegments_cons hsegment, ih hrest, List.map_cons, String.join_cons]
      rfl

theorem renderSegments_of_firstGap (hgap : FirstGap model segments name) :
    renderSegments pattern model segments = .error (.missingValue name pattern) := by
  obtain ⟨before, behind, rfl, hbefore, hnone⟩ := hgap
  induction before with
  | nil => simp only [List.nil_append, renderSegments, hnone]
  | cons segment before ih =>
      obtain ⟨hsegment, hbefore⟩ := isFilled_cons.mp hbefore
      rw [List.cons_append, renderSegments_cons hsegment, ih hbefore]
      rfl

/-- There is one leftmost gap. -/
theorem FirstGap.unique {other : String} (hgap : FirstGap model segments name)
    (hother : FirstGap model segments other) : name = other := by
  have hrender : renderSegments "" model segments = .error (.missingValue name "") :=
    renderSegments_of_firstGap hgap
  have hsame := hrender.symm.trans (renderSegments_of_firstGap hother)
  exact (TemplateError.missingValue.inj (Except.error.inj hsame)).1

theorem render_of_isFilled {t : Template} (h : IsFilled model t.segments) :
    t.render model = .ok (t.text model) :=
  renderSegments_of_isFilled h

theorem render_of_firstGap {t : Template} (hgap : FirstGap model t.segments name) :
    t.render model = .error (.missingValue name t.pattern) :=
  renderSegments_of_firstGap hgap

end Render

end Template

namespace Message

variable {m m' : Message} {id : String} {cause : MessageError}

theorem correlate_eq_ok_iff :
    m.correlate id = .ok m' ↔
      id.utf8ByteSize ≤ maxCorrelationIdLength ∧ '\x00' ∉ id.toList ∧
        m' = { m with correlationId := some id } := by
  rw [correlate, checkCorrelationId]
  split
  next hlong => simp [Except.map, Nat.not_le.mpr hlong]
  next hshort =>
    split
    next hnul => simp [Except.map, hnul]
    next hnul => simp [Except.map, Nat.not_lt.mp hshort, hnul, eq_comm]

theorem correlate_eq_error_iff :
    m.correlate id = .error cause ↔
      (maxCorrelationIdLength < id.utf8ByteSize ∧
          cause = .correlationIdTooLong id.utf8ByteSize) ∨
        (id.utf8ByteSize ≤ maxCorrelationIdLength ∧ '\x00' ∈ id.toList ∧
          cause = .correlationIdNul) := by
  rw [correlate, checkCorrelationId]
  split
  next hlong => simp [Except.map, hlong, Nat.not_le.mpr hlong, eq_comm]
  next hshort =>
    split
    next hnul => simp [Except.map, hshort, Nat.not_lt.mp hshort, hnul, eq_comm]
    next hnul => simp [Except.map, hshort, hnul]

end Message

namespace Assigner

/-- The assigner of a template. -/
def ofPattern (pattern : String) : Assigner := ⟨some pattern, Renderer.placeholder⟩

/-- Assigners are made of the patterns that are templates. -/
theorem new_some_eq_ok_iff {pattern : String} {a : Assigner} :
    new (some pattern) = .ok a ↔
      (∃ t, Template.parse pattern = .ok t) ∧ a = ofPattern pattern := by
  simp only [new, withRenderer, Renderer.placeholder, ofPattern]
  cases Template.parse pattern <;> simp [Except.map, eq_comm]

section Assign

variable {pattern name : String} {t : Template} {context : Context}

theorem assign_of_firstGap (ht : Template.parse pattern = .ok t)
    (hgap : Template.FirstGap context.model t.segments name) (m : Message) :
    (ofPattern pattern).assign m context = .error (.render (.missingValue name pattern)) := by
  obtain ⟨rfl, -⟩ := Template.parse_eq_ok_iff.mp ht
  simp only [assign, ofPattern, Renderer.placeholder, ht, Template.render_of_firstGap hgap]

theorem assign_eq_ok_iff (ht : Template.parse pattern = .ok t)
    (hfilled : Template.IsFilled context.model t.segments) {m m' : Message} :
    (ofPattern pattern).assign m context = .ok m' ↔
      m.correlate (t.text context.model) = .ok m' := by
  simp only [assign, ofPattern, Renderer.placeholder, ht, Template.render_of_isFilled hfilled]
  split <;> simp [*]

theorem assign_eq_error_iff (ht : Template.parse pattern = .ok t)
    (hfilled : Template.IsFilled context.model t.segments) {m : Message} {e : CorrelationError} :
    (ofPattern pattern).assign m context = .error e ↔
      ∃ cause, m.correlate (t.text context.model) = .error cause ∧
        e = .apply (t.text context.model) cause := by
  simp only [assign, ofPattern, Renderer.placeholder, ht, Template.render_of_isFilled hfilled]
  split <;> simp [*, eq_comm]

end Assign

/-- An assigner of a template sets the text of the template as the correlation id and changes
nothing else of the message, if there is a text for every name and the message accepts the id.
Otherwise the leftmost name without a text is reported, or else why the id was refused, its length
first. Without a pattern every message stays as it is. -/
theorem assign_exact :
    (∀ pattern a, new (some pattern) = .ok a → ∃ t, Template.parse pattern = .ok t ∧
      ∀ (m : Message) (context : Context),
        let id := t.text context.model
        (∀ m', a.assign m context = .ok m' ↔
          Template.IsFilled context.model t.segments ∧
            id.utf8ByteSize ≤ maxCorrelationIdLength ∧ '\x00' ∉ id.toList ∧
            m' = { m with correlationId := some id }) ∧
        ∀ e, a.assign m context = .error e ↔
          (∃ name, Template.FirstGap context.model t.segments name ∧
            e = .render (.missingValue name pattern)) ∨
          Template.IsFilled context.model t.segments ∧
            ((maxCorrelationIdLength < id.utf8ByteSize ∧
                e = .apply id (.correlationIdTooLong id.utf8ByteSize)) ∨
              (id.utf8ByteSize ≤ maxCorrelationIdLength ∧ '\x00' ∈ id.toList ∧
                e = .apply id .correlationIdNul))) ∧
      ∀ a, new none = .ok a → ∀ (m : Message) (context : Context), a.assign m context = .ok m := by
  refine ⟨fun pattern a ha => ?_, fun a ha m context => ?_⟩
  · obtain ⟨⟨t, ht⟩, rfl⟩ := new_some_eq_ok_iff.mp ha
    refine ⟨t, ht, fun m context => ?_⟩
    rcases Template.isFilled_or_firstGap context.model t.segments with hfilled | ⟨name, hgap⟩
    · have hnogap : ∀ name, ¬ Template.FirstGap context.model t.segments name :=
        fun name hgap => hgap.not_isFilled hfilled
      refine ⟨fun m' => ?_, fun e => ?_⟩
      · simp only [assign_eq_ok_iff ht hfilled, Message.correlate_eq_ok_iff, hfilled, true_and]
      · simp only [assign_eq_error_iff ht hfilled, Message.correlate_eq_error_iff, hfilled, hnogap,
          false_and, exists_false, false_or, true_and, or_and_right, exists_or, and_assoc,
          exists_and_left, exists_eq_left]
    · rw [assign_of_firstGap ht hgap]
      refine ⟨fun m' => by simp [hgap.not_isFilled], fun e => ?_⟩
      simp only [hgap.not_isFilled, false_and, or_false]
      constructor
      · rintro ⟨⟩
        exact ⟨name, hgap, rfl⟩
      · rintro ⟨other, hother, rfl⟩
        rw [hgap.unique hother]
  · obtain rfl := Except.ok.inj ha
    rfl

/-- The value of a name looks like a placeholder of another name that has a value too. -/
theorem assign_exact_verbatim :
    let context : Context :=
      (Keyed.empty.insert "a" (.string "$\x7bb\x7d")).insert "b" (.string "1")
    let m : Message := { body := .text "first", priority := 7 }
    new (some "id-$\x7ba\x7d") = .ok (ofPattern "id-$\x7ba\x7d") ∧
      (ofPattern "id-$\x7ba\x7d").assign m context =
        .ok { m with correlationId := some "id-$\x7bb\x7d" } := by
  intro context m
  have hparse : Template.parse "id-$\x7ba\x7d" =
      .ok ⟨"id-$\x7ba\x7d", [.literal "id-", .placeholder "a"]⟩ := by decide
  have hnew := new_some_eq_ok_iff.mpr ⟨⟨_, hparse⟩, rfl⟩
  obtain ⟨t, ht, hassign⟩ := assign_exact.1 _ _ hnew
  obtain rfl := Except.ok.inj (ht.symm.trans hparse)
  have hvalue : context.model.get? "a" = some "$\x7bb\x7d" := by decide
  refine ⟨hnew, ((hassign m context).1 _).mpr ⟨?_, by decide, by decide, rfl⟩⟩
  intro name hname
  obtain rfl : name = "a" := by simpa using hname
  rw [hvalue]
  rfl

end Assigner

end Sluice
