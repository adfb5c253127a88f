/-! # Plain data

Plain data is what a document of a data format can show: scalars, lists and mappings with string
keys. The entries of a mapping keep the order in which their keys were first assigned.
-/

namespace ScenarioTree

inductive Plain where
  | null
  | bool (value : Bool)
  | int (value : Int)
  | float (value : Float)
  | str (value : String)
  | bytes (value : List UInt8)
  | list (items : List Plain)
  | map (entries : List (String × Plain))
deriving Repr, Inhabited

/-- Assigns a value to a key: a known key keeps its place, a new one comes last. -/
def assign {α β : Type} [BEq α] (entries : List (α × β)) (key : α) (value : β) : List (α × β) :=
  match entries with
  | [] => [(key, value)]
  | (other, old) :: rest =>
    if other == key then (other, value) :: rest else (other, old) :: assign rest key value

/-- The entries that remain when later assignments to a key replace earlier ones. -/
def assignAll {α β : Type} [BEq α] (entries : List (α × β)) : List (α × β) :=
  entries.foldl (fun known (key, value) => assign known key value) []

private theorem mem_keys_assign {α β : Type} [BEq α] [LawfulBEq α] (entries : List (α × β)) (key other : α)
    (value : β) :
    other ∈ (assign entries key value).map Prod.fst ↔ other = key ∨ other ∈ entries.map Prod.fst := by
  induction entries with
  | nil => simp [assign]
  | cons entry rest ih =>
    obtain ⟨first, old⟩ := entry
    by_cases same : first = key
    · subst same
      simp [assign]
    · simp only [assign, beq_iff_eq, same, if_false, List.map_cons, List.mem_cons, ih]
      constructor <;> rintro (h | h | h) <;> simp [h]

section

variable {α β : Type} [BEq α] [LawfulBEq α]

private theorem assign_of_not_mem {entries : List (α × β)} {key : α} (new : key ∉ entries.map Prod.fst)
    (value : β) : assign entries key value = entries ++ [(key, value)] := by
  induction entries with
  | nil => rfl
  | cons entry rest ih =>
    obtain ⟨first, old⟩ := entry
    rw [List.map_cons, List.mem_cons, not_or] at new
    have different : (first == key) = false := beq_eq_false_iff_ne.mpr fun same => new.1 same.symm
    rw [assign, different, if_neg Bool.false_ne_true, ih new.2, List.cons_append]

private theorem mem_of_mem_assign {entries : List (α × β)} {key : α} {value : β} {entry : α × β}
    (member : entry ∈ assign entries key value) : entry = (key, value) ∨ entry ∈ entries := by
  induction entries with
  | nil => exact .inl (List.mem_singleton.mp member)
  | cons first rest ih =>
    obtain ⟨other, old⟩ := first
    rw [assign] at member
    split at member
    · rename_i same
      rw [eq_of_beq same] at member
      rcases List.mem_cons.mp member with here | later
      · exact .inl here
      · exact .inr (List.mem_cons_of_mem _ later)
    · rcases List.mem_cons.mp member with here | later
      · exact .inr (List.mem_cons.mpr (.inl here))
      · exact (ih later).imp_right (List.mem_cons_of_mem _)

/-- Keys stay pairwise different. -/
theorem nodup_keys_assign {entries : List (α × β)} (distinct : (entries.map Prod.fst).Nodup) (key : α)
    (value : β) : ((assign entries key value).map Prod.fst).Nodup := by
  induction entries with
  | nil => simp [assign]
  | cons entry rest ih =>
    obtain ⟨first, old⟩ := entry
    rw [List.map_cons, List.nodup_cons] at distinct
    rw [assign]
    split
    · exact List.nodup_cons.mpr distinct
    · rename_i different
      refine List.nodup_cons.mpr ⟨fun member => ?_, ih distinct.2⟩
      rcases (mem_keys_assign rest key first value).mp member with same | known
      · exact different (beq_iff_eq.mpr same)
      · exact distinct.1 known

/-- The entries that remain have pairwise different keys, and each of them was given. -/
theorem assignAll_spec (entries : List (α × β)) :
    ((assignAll entries).map Prod.fst).Nodup ∧ ∀ entry ∈ assignAll entries, entry ∈ entries := by
  have kept (known : List (α × β)) (distinct : (known.map Prod.fst).Nodup) :
      let final := entries.foldl (fun known (key, value) => assign known key value) known
      (final.map Prod.fst).Nodup ∧ ∀ entry ∈ final, entry ∈ known ∨ entry ∈ entries := by
    induction entries generalizing known with
    | nil => exact ⟨distinct, fun entry member => .inl member⟩
    | cons entry rest ih =>
      obtain ⟨nodup, source⟩ := ih (assign known entry.1 entry.2) (nodup_keys_assign distinct _ _)
      refine ⟨nodup, fun other member => ?_⟩
      rcases source other member with made | later
      · rcases mem_of_mem_assign made with here | known
        · exact .inr (List.mem_cons.mpr (.inl here))
        · exact .inl known
      · exact .inr (List.mem_cons_of_mem _ later)
  obtain ⟨nodup, source⟩ := kept [] List.nodup_nil
  exact ⟨nodup, fun entry member => (source entry member).resolve_left List.not_mem_nil⟩

/-- Entries with pairwise different keys all remain as they are. -/
theorem assignAll_of_nodup {entries : List (α × β)} (distinct : (entries.map Prod.fst).Nodup) :
    assignAll entries = entries := by
  have appended (known : List (α × β)) (apart : ((known ++ entries).map Prod.fst).Nodup) :
      entries.foldl (fun known (key, value) => assign known key value) known = known ++ entries := by
    induction entries generalizing known with
    | nil => exact (List.append_nil known).symm
    | cons entry rest ih =>
      obtain ⟨key, value⟩ := entry
      have new : key ∉ known.map Prod.fst := by
        simp only [List.map_append, List.map_cons, List.nodup_append, List.mem_cons] at apart
        exact fun member => apart.2.2 key member key (.inl rfl) rfl
      have rejoined : known ++ (key, value) :: rest = known ++ [(key, value)] ++ rest := by simp
      rw [rejoined] at apart ⊢
      rw [List.foldl_cons]
      dsimp only
      rw [assign_of_not_mem new]
      exact ih (List.nodup_cons.mp distinct).2 _ apart
  exact appended [] distinct

end

end ScenarioTree
