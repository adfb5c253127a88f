import ScenarioTree.Proofs.Schema.ReportedPlace

/-! # The path of a located message

A location is followed in a value as far as it leads, whether or not validation could have produced it. The
path that is named leads step by step from the root to the element, and the element is the last mapping on the
way that was followed, or the root if no mapping is on it.
-/

namespace ScenarioTree

/-- The way that a location leads from a value. Steps that cannot be made are left out, and at a value without
places inside the rest is given up. -/
inductive Value.Leads : Value → List Segment → List Segment → Prop where
  | arrived (value : Value) : Leads value [] []
  | barred {value : Value} (items : value.indexedItems? = none) (entries : value.entries? = none)
      (location : List Segment) : Leads value location []
  | made {value next : Value} {segment : Segment} {rest way : List Segment}
      (step : value.step? segment = some next) (onward : Leads next rest way) :
      Leads value (segment :: rest) (segment :: way)
  | skipped {value : Value} {segment : Segment} {rest way : List Segment}
      (isOpen : Trail.isOpen value = true) (stuck : value.step? segment = none)
      (onward : Leads value rest way) : Leads value (segment :: rest) way

section

variable {root value : Value} {location way : List Segment} {segment : Segment} {trail : Trail}

/-- A longer path leads on from where its beginning leads. -/
theorem Value.follow?_append (value : Value) (first second : List Segment) :
    value.follow? (first ++ second) = (value.follow? first).bind fun next => next.follow? second := by
  induction first generalizing value with
  | nil => rfl
  | cons segment rest ih => simp only [List.cons_append, follow?, Option.bind_assoc, ih]

/-- One step further than a path. -/
theorem Value.follow?_concat {next : Value} (leads : root.follow? way = some value)
    (step : value.step? segment = some next) : root.follow? (way ++ [segment]) = some next := by
  simp [follow?_append, leads, follow?, step]

/-- What is left of a location when it was followed is a part of it, in its order. -/
theorem Value.Leads.sublist (leads : value.Leads location way) : way.Sublist location := by
  induction leads with
  | arrived => exact .slnil
  | barred => exact List.nil_sublist _
  | made step onward ih => exact ih.cons_cons _
  | skipped isOpen stuck onward ih => exact ih.cons _

namespace Trail

private theorem isOpen_eq_false_iff {value : Value} :
    isOpen value = false ↔ value.indexedItems? = none ∧ value.entries? = none := by
  simp [isOpen]

/-- The path of a trail goes on by the way that the location leads from where the trail stands. -/
theorem exists_path_follow (trail : Trail) (location : List Segment) :
    ∃ way, trail.here.Leads location way ∧ (trail.follow location).path = trail.path ++ way := by
  induction location generalizing trail with
  | nil => exact ⟨[], .arrived _, (List.append_nil _).symm⟩
  | cons segment rest ih =>
    cases places : isOpen trail.here with
    | false =>
      obtain ⟨items, entries⟩ := isOpen_eq_false_iff.mp places
      refine ⟨[], .barred items entries _, ?_⟩
      simp [follow, places]
    | true =>
      rw [follow_cons places]
      obtain ⟨way, leads, path⟩ := ih (trail.advance segment).remember
      rw [here_remember] at leads
      rw [path_remember] at path
      cases step : trail.here.step? segment with
      | none =>
        rw [advance_of_step?_eq_none trail step] at leads path ⊢
        exact ⟨way, .skipped places step leads, path⟩
      | some next =>
        rw [advance_of_step? trail step] at leads path ⊢
        refine ⟨segment :: way, .made step leads, ?_⟩
        simp [path]

/-- A trail that started at a root: it stands where its path leads, and remembers a place on the way, which is
the root or a mapping. -/
structure IsFrom (trail : Trail) (root : Value) : Prop where
  leads : root.follow? trail.path = some trail.here
  remembers : root.follow? trail.nodePath = some trail.node
  onWay : trail.nodePath <+: trail.path
  isNode : trail.node = root ∨ trail.node.entries?.isSome = true

/-- No mapping is on the path of a trail after the place that it remembers. -/
def IsUpToDate (trail : Trail) (root : Value) : Prop :=
  ∀ way value, way <+: trail.path → trail.nodePath.length < way.length → root.follow? way = some value →
    value.entries? = none

private theorem isFrom_start (root : Value) : (start root).IsFrom root := ⟨rfl, rfl, List.prefix_refl _, .inl rfl⟩

private theorem isUpToDate_start (root : Value) : (start root).IsUpToDate root := by
  intro way value onWay longer
  have bound := onWay.length_le
  exact absurd longer (Nat.not_lt.mpr bound)

namespace IsFrom

/-- A step keeps what is remembered. -/
theorem advance (sound : trail.IsFrom root) (segment : Segment) : (trail.advance segment).IsFrom root := by
  cases step : trail.here.step? segment with
  | none =>
    rw [advance_of_step?_eq_none trail step]
    exact sound
  | some next =>
    rw [advance_of_step? trail step]
    constructor
    · exact Value.follow?_concat sound.leads step
    · exact sound.remembers
    · exact sound.onWay.trans (List.prefix_append _ _)
    · exact sound.isNode

theorem remember (sound : trail.IsFrom root) : trail.remember.IsFrom root := by
  rw [Trail.remember]
  split
  · rename_i isMapping
    exact ⟨sound.leads, sound.leads, List.prefix_refl _, .inr isMapping⟩
  · exact sound

/-- When the place where a trail stands was looked at, what it remembers is up to date again. -/
theorem isUpToDate_remember (sound : trail.IsFrom root)
    (before : ∀ way value, way <+: trail.path → way ≠ trail.path → trail.nodePath.length < way.length →
      root.follow? way = some value → value.entries? = none) : trail.remember.IsUpToDate root := by
  rw [Trail.remember]
  split
  · intro way value onWay longer
    exact absurd longer (Nat.not_lt.mpr onWay.length_le)
  · rename_i plain
    intro way value onWay longer leads
    by_cases whole : way = trail.path
    · subst whole
      rw [sound.leads] at leads
      cases leads
      simpa using plain
    · exact before way value onWay whole longer leads

/-- A step and a look around keep what is remembered up to date. -/
theorem isUpToDate_advance (sound : trail.IsFrom root) (current : trail.IsUpToDate root) (segment : Segment) :
    (trail.advance segment).remember.IsUpToDate root := by
  apply (sound.advance segment).isUpToDate_remember
  cases step : trail.here.step? segment with
  | none =>
    rw [advance_of_step?_eq_none trail step]
    exact fun way value onWay _ => current way value onWay
  | some next =>
    rw [advance_of_step? trail step]
    intro way value onWay other
    rcases List.prefix_concat_iff.mp onWay with whole | onWay
    · exact absurd whole other
    · exact current way value onWay

theorem follow (sound : trail.IsFrom root) (current : trail.IsUpToDate root) (location : List Segment) :
    (trail.follow location).IsFrom root ∧ (trail.follow location).IsUpToDate root := by
  induction location generalizing trail with
  | nil => exact ⟨sound, current⟩
  | cons segment rest ih =>
    rw [Trail.follow]
    split
    · exact ih (sound.advance segment).remember (sound.isUpToDate_advance current segment)
    · exact ⟨sound, current⟩

end IsFrom

end Trail

end

/-- The place that a message is located at is real. For every value, location and message with a line that takes
ink: the path that is named leads step by step from the root to the element, which is the root or a mapping. It
is the beginning of the way that the location leads, which is a part of the location and leads to a value, and no
mapping is on this way after the element. -/
theorem locate?_leads_to_last_mapping (root : Value) (location : List Segment) {message : String}
    (inked : ∃ line ∈ Text.lines message.toList, ∃ c ∈ line, Text.isBlank c = false) :
    ∃ located way, locate? root location message = some located ∧
      root.Leads location way ∧ (root.follow? way).isSome = true ∧
      root.follow? located.path = some located.element ∧
      (located.element = root ∨ located.element.entries?.isSome = true) ∧
      located.path.Sublist location ∧ located.path <+: way ∧
      ∀ longer value, longer <+: way → located.path.length < longer.length →
        root.follow? longer = some value → value.entries? = none := by
  obtain ⟨line, listed, c, inside, ink⟩ := inked
  obtain ⟨headline, found⟩ := Option.isSome_iff_exists.mp (Text.headline?_isSome_of_line listed inside ink)
  obtain ⟨way, leads, path⟩ := (Trail.start root).exists_path_follow location
  obtain ⟨sound, current⟩ :=
    (Trail.isFrom_start root).follow (Trail.isUpToDate_start root) location
  have whole : ((Trail.start root).follow location).path = way := path
  have onWay := sound.onWay
  rw [whole] at onWay
  refine ⟨_, way, by rw [locate?, found, Option.map_some], leads, ?_, sound.remembers, sound.isNode,
    onWay.sublist.trans leads.sublist, onWay, ?_⟩
  · rw [← whole, sound.leads]
    rfl
  · rw [← whole]
    exact current

/-- A tree with a mapping inside another one, and a text inside that. -/
def lampShelf : Value :=
  .list [.map [(.str "tests", .tuple [.proxy [(.str "name", .str "Lamp")], .int 3])]]

/-- A location with the tag, a negative position, a truth value as a position, and more keys than there are
mappings. -/
def strayLocation : List Segment :=
  [.index 0, .key "fan-out-group", .key "tests", .index (-1), .flag false, .key "name", .key "tests"]

/-- The location leads past the tag and the negative position to the text in the mapping inside, which is the
element. -/
theorem lampShelf_located :
    (∃ line ∈ Text.lines " \n Odd name".toList, ∃ c ∈ line, Text.isBlank c = false) ∧
    ∃ located way, locate? lampShelf strayLocation " \n Odd name" = some located ∧
      located.message = "Odd name: 'tests'" ∧
      located.path = [.index 0, .key "tests", .flag false] ∧
      located.element = .proxy [(.str "name", .str "Lamp")] ∧
      lampShelf.follow? located.path = some located.element ∧
      lampShelf.Leads strayLocation way ∧ located.path.Sublist strayLocation := by
  have inked : ∃ line ∈ Text.lines " \n Odd name".toList, ∃ c ∈ line, Text.isBlank c = false :=
    ⟨" Odd name".toList, by decide, 'O', by decide, rfl⟩
  have located : locate? lampShelf strayLocation " \n Odd name" =
      some ⟨"Odd name: 'tests'", [.index 0, .key "tests", .flag false], .proxy [(.str "name", .str "Lamp")]⟩ := rfl
  obtain ⟨found, way, same, leads, _, followed, _, part, _⟩ :=
    locate?_leads_to_last_mapping lampShelf strayLocation inked
  cases located.symm.trans same
  exact ⟨inked, _, way, located, rfl, rfl, rfl, followed, leads, part⟩

end ScenarioTree
