import Mathlib
import ScenarioTree.Proofs.Schema.Blame

/-! # The text of a location

Every step of a location is written with a sign in front, a dot or an opening bracket, and what follows a key does
not mark its end. The text of a position holds neither sign. So if no key holds one either, the signs are where
the steps begin, and the text tells a location from every other one. The path to a node has no
other keys.
-/

namespace ScenarioTree

/-- The text of an integer consists of digits and a minus sign. -/
theorem mem_toString_int {position : Int} {c : Char} (inside : c ∈ (toString position).toList) :
    c = '-' ∨ c.isDigit = true := by
  have digit {n : Nat} (inside : c ∈ n.repr.toList) : c.isDigit = true := by
    rw [Nat.toList_repr] at inside
    exact Nat.isDigit_of_mem_toDigits (by decide) (by decide) inside
  change c ∈ position.repr.toList at inside
  rw [Int.repr_eq_if] at inside
  split at inside
  · exact .inr (digit inside)
  · rw [String.toList_append, List.mem_append] at inside
    rcases inside with minus | inside
    · exact .inl (List.mem_singleton.mp minus)
    · exact .inr (digit inside)

/-- An integer is not written like a truth value. -/
theorem toString_ne_boolLiteral (position : Int) (value : Bool) : toString position ≠ boolLiteral value := by
  intro same
  have inside : (if value then 'T' else 'F') ∈ (toString position).toList := by
    rw [same]
    cases value <;> decide
  have other := mem_toString_int inside
  cases value <;> revert other <;> decide

private theorem boolLiteral_injective : Function.Injective boolLiteral := by
  unfold Function.Injective
  decide

namespace Segment

/-- Whether a character is none of the two signs that begin a step. -/
def goesOn (c : Char) : Bool := c != '.' && c != '['

/-- The sign in front of a step. -/
def sign : Segment → Char
  | key _ => '.'
  | index _ | flag _ => '['

/-- The text of a step after its sign. -/
def body : Segment → List Char
  | key name => name.toList
  | index i => (toString i).toList ++ [']']
  | flag b => (boolLiteral b).toList ++ [']']

/-- A step whose key, if it is one, holds neither a dot nor an opening bracket. -/
def IsSimple : Segment → Prop
  | key name => '.' ∉ name.toList ∧ '[' ∉ name.toList
  | index _ | flag _ => True

instance : DecidablePred IsSimple
  | key name => inferInstanceAs (Decidable ('.' ∉ name.toList ∧ '[' ∉ name.toList))
  | index _ | flag _ => .isTrue trivial

private theorem render_eq (segment : Segment) : segment.render = segment.sign :: segment.body := by
  cases segment <;> rfl

private theorem goesOn_sign (segment : Segment) : goesOn segment.sign = false := by
  cases segment <;> rfl

private theorem goesOn_iff {c : Char} : goesOn c = true ↔ c ≠ '.' ∧ c ≠ '[' := by
  rw [goesOn, Bool.and_eq_true, bne_iff_ne, bne_iff_ne]

/-- After its own sign, the text of a simple step holds no sign of a step. -/
theorem IsSimple.goesOn_of_mem_body {segment : Segment} (simple : segment.IsSimple) {c : Char}
    (inside : c ∈ segment.body) : goesOn c = true := by
  cases segment with
  | key name =>
    obtain ⟨noDot, noBracket⟩ := simple
    exact goesOn_iff.mpr ⟨ne_of_mem_of_not_mem inside noDot, ne_of_mem_of_not_mem inside noBracket⟩
  | index position =>
    rcases List.mem_append.mp inside with inside | closing
    · rcases mem_toString_int inside with rfl | digit
      · rfl
      · refine goesOn_iff.mpr ⟨?_, ?_⟩ <;> rintro rfl <;> cases digit
    · cases List.mem_singleton.mp closing
      rfl
  | flag value =>
    have all : (flag value).body.all goesOn = true := by cases value <;> rfl
    exact List.all_eq_true.mp all c inside

/-- The text of a single step tells it from every other one. -/
theorem render_injective : Function.Injective render := by
  have enclosed {first second : String}
      (same : '[' :: first.toList ++ [']'] = '[' :: second.toList ++ [']']) : first = second :=
    String.toList_injective (List.append_cancel_right (List.cons.inj same).2)
  intro first second same
  cases first with
  | key name =>
    cases second with
    | key other => exact congrArg key (String.toList_injective (List.cons.inj same).2)
    | index | flag => cases (List.cons.inj same).1
  | index position =>
    cases second with
    | key => cases (List.cons.inj same).1
    | index other => exact congrArg index (Int.repr_injective (enclosed same))
    | flag value => exact absurd (enclosed same) (toString_ne_boolLiteral position value)
  | flag value =>
    cases second with
    | key => cases (List.cons.inj same).1
    | index position => exact absurd (enclosed same).symm (toString_ne_boolLiteral position value)
    | flag other => exact congrArg flag (boolLiteral_injective (enclosed same))

/-- The text of a simple step ends where the next sign stands, so that it can be cut off from what follows. -/
theorem IsSimple.takeWhile_body {segment : Segment} (simple : segment.IsSimple) (rest : List Segment) :
    (segment.body ++ rest.flatMap render).takeWhile goesOn = segment.body := by
  have ends : (rest.flatMap render).takeWhile goesOn = [] := by
    cases rest with
    | nil => rfl
    | cons next rest =>
      rw [List.flatMap_cons, render_eq, List.cons_append, List.takeWhile_cons, goesOn_sign]
      rfl
  rw [List.takeWhile_append_of_pos fun _ => simple.goesOn_of_mem_body, ends, List.append_nil]

/-- Two locations with the same text begin with the same step. -/
theorem IsSimple.eq_of_render_append {segment other : Segment} (simple : segment.IsSimple)
    (simpleOther : other.IsSimple) {rest others : List Segment}
    (same : segment.render ++ rest.flatMap render = other.render ++ others.flatMap render) : segment = other := by
  rw [render_eq, render_eq, List.cons_append, List.cons_append] at same
  obtain ⟨sign, onward⟩ := List.cons.inj same
  -- Nothing is known of the two rests, but the second sign stands at the same place in both texts.
  have body := congrArg (List.takeWhile goesOn) onward
  rw [simple.takeWhile_body, simpleOther.takeWhile_body] at body
  apply render_injective
  rw [render_eq, render_eq, sign, body]

end Segment

/-- Simple steps can be told from their texts, written one after the other. -/
theorem flatMap_render_injective {first second : List Segment} (simpleFirst : ∀ segment ∈ first, segment.IsSimple)
    (simpleSecond : ∀ segment ∈ second, segment.IsSimple)
    (same : first.flatMap Segment.render = second.flatMap Segment.render) : first = second := by
  induction first generalizing second with
  | nil =>
    cases second with
    | nil => rfl
    | cons other others =>
      rw [List.flatMap_cons, Segment.render_eq] at same
      cases same
  | cons segment rest ih =>
    cases second with
    | nil =>
      rw [List.flatMap_cons, Segment.render_eq] at same
      cases same
    | cons other others =>
      obtain ⟨simple, simpleRest⟩ := List.forall_mem_cons.mp simpleFirst
      obtain ⟨simpleOther, simpleOthers⟩ := List.forall_mem_cons.mp simpleSecond
      rw [List.flatMap_cons, List.flatMap_cons] at same
      obtain rfl := simple.eq_of_render_append simpleOther same
      rw [ih simpleRest simpleOthers (List.append_cancel_left same)]

section

variable {value root node : Value} {location path rest : List Segment}

private theorem Value.Passes.eq_of_mem (passes : value.Passes location path node rest) {segment : Segment}
    (onWay : segment ∈ path) :
    (∃ position : Nat, segment = .index position) ∨ ∃ field ∈ childFields, segment = .key field.name := by
  induction passes with
  | here => cases onWay
  | @deeper _ _ _ _ _ _ field _ position _ _ _ _ _ isChild _ _ _ _ ih =>
    rcases List.mem_cons.mp onWay with rfl | onWay
    · exact .inr ⟨field, isChild, rfl⟩
    · rcases List.mem_cons.mp onWay with rfl | onWay
      · exact .inl ⟨position, rfl⟩
      · exact ih onWay

private theorem Value.PassesNode.eq_of_mem (passes : root.PassesNode location path node rest) {segment : Segment}
    (onWay : segment ∈ path) :
    (∃ position : Nat, segment = .index position) ∨ segment = .key "tests" ∨ segment = .key "inherit" := by
  cases passes with
  | @item _ _ _ position _ _ _ _ _ further =>
    rcases List.mem_cons.mp onWay with rfl | onWay
    · exact .inl ⟨position, rfl⟩
    · refine (further.eq_of_mem onWay).imp_right ?_
      rintro ⟨field, isChild, rfl⟩
      have names : ∀ field ∈ childFields, field.name = "tests" ∨ field.name = "inherit" := by decide
      exact (names field isChild).imp (congrArg _) (congrArg _)

end

/-- Locations are written unambiguously. For all locations whose keys hold neither a dot nor an opening bracket, the
texts are the same only if the steps are, one by one. The path to a node of a tree is always of this kind: its
steps are positions and the two keys of children. -/
theorem renderPath_unambiguous :
    (∀ {first second : List Segment}, (∀ segment ∈ first, segment.IsSimple) →
      (∀ segment ∈ second, segment.IsSimple) → (renderPath first = renderPath second ↔ first = second)) ∧
    ∀ {root node : Value} {location path rest : List Segment}, root.PassesNode location path node rest →
      ∀ segment ∈ path, segment.IsSimple ∧
        ((∃ position : Nat, segment = .index position) ∨ segment = .key "tests" ∨ segment = .key "inherit") := by
  constructor
  · intro first second simpleFirst simpleSecond
    refine ⟨fun same => ?_, congrArg renderPath⟩
    have steps := (List.cons.inj (String.ofList_injective same)).2
    exact flatMap_render_injective simpleFirst simpleSecond steps
  · intro root node location path rest passes segment onWay
    have step := passes.eq_of_mem onWay
    refine ⟨?_, step⟩
    rcases step with ⟨position, rfl⟩ | rfl | rfl
    · trivial
    · decide
    · decide

/-- A key may not hold a dot or an opening bracket. -/
example : renderPath [.key "tests.12"] = renderPath [.key "tests", .key "12"] ∧
    renderPath [.key "tests[12]"] = renderPath [.key "tests", .index 12] := ⟨rfl, rfl⟩

/-- A location with digits, a closing bracket and nothing at all for keys. -/
def digitKeys : List Segment := [.index 0, .key "tests", .key "12", .key "]", .key "", .flag true]

/-- The same with positions for the digits and for the truth value. -/
def digitPositions : List Segment := [.index 0, .key "tests", .index 12, .key "]", .key "", .index 1]

/-- A tree with a scenario in a group. -/
def shallowTree : Value :=
  .list [.map [(.str "feature", .str "Menu"), (.str "tests", .tuple [.map [(.str "scenario", .str "Title")]])]]

/-- The two locations have different texts, and the scenario has a location of which this can be said. -/
theorem digitKeys_told_from_digitPositions :
    (∀ segment ∈ digitKeys, segment.IsSimple) ∧ (∀ segment ∈ digitPositions, segment.IsSimple) ∧
    renderPath digitKeys ≠ renderPath digitPositions ∧
    shallowTree.PassesNode [.index 0, .key "plain-group", .key "tests", .index 0]
      [.index 0, .key "tests", .index 0] (.map [(.str "scenario", .str "Title")]) [] ∧
    ∀ segment ∈ [Segment.index 0, .key "tests", .index 0], segment.IsSimple := by
  have simpleKeys : ∀ segment ∈ digitKeys, segment.IsSimple := by decide
  have simplePositions : ∀ segment ∈ digitPositions, segment.IsSimple := by decide
  have passes : shallowTree.PassesNode [.index 0, .key "plain-group", .key "tests", .index 0]
      [.index 0, .key "tests", .index 0] (.map [(.str "scenario", .str "Title")]) [] :=
    @Value.PassesNode.item _ _ _ _ 0 _ _ _ rfl rfl <|
      @Value.Passes.deeper _ _ _ _ _ .plainGroup .tests _ 0 _ _ _ rfl rfl (.head _) rfl rfl rfl (.here _ _)
  refine ⟨simpleKeys, simplePositions, ?_, passes, ?_⟩
  · rw [ne_eq, renderPath_unambiguous.1 simpleKeys simplePositions]
    decide
  · exact fun segment onWay => (renderPath_unambiguous.2 passes segment onWay).1

end ScenarioTree
