import ProxyFleet.Text.Order

/-!
# Sets of names

A set of resource names, kept as its strictly increasing list. Requests and answers list names in
this order, so the list *is* the set: two sets with the same members are equal.

The main statements are `NameSet.ext_mem` and one membership lemma for each operation. A set may
also change name by name while a list is gone through and the names that make a difference are
noted; what is noted, and the set that is left, are told by `NameSet.Settles.mem_sift_fst` and
`NameSet.Settles.mem_sift_snd`.
-/

namespace ProxyFleet

/-- A finite set of names, represented by its strictly increasing list. -/
structure NameSet where
  /-- The members, in increasing order. -/
  toList : List String
  /-- No member is repeated and all are in order. -/
  increasing : toList.Pairwise (· < ·)

namespace NameSet

instance : DecidableEq NameSet := fun s t ↦
  if h : s.toList = t.toList then
    isTrue (by cases s; cases t; cases h; rfl)
  else
    isFalse fun e ↦ h (e ▸ rfl)

def empty : NameSet := ⟨[], .nil⟩

instance : Inhabited NameSet := ⟨empty⟩

instance : Membership String NameSet := ⟨fun s name ↦ name ∈ s.toList⟩

theorem mem_toList {s : NameSet} {name : String} : name ∈ s.toList ↔ name ∈ s := Iff.rfl

instance (name : String) (s : NameSet) : Decidable (name ∈ s) :=
  inferInstanceAs (Decidable (name ∈ s.toList))

def isEmpty (s : NameSet) : Bool := s.toList.isEmpty

def size (s : NameSet) : Nat := s.toList.length

/-! ## Adding and taking out one name -/

def insert (name : String) (s : NameSet) : NameSet :=
  ⟨Text.place id name s.toList, Text.place_increasing s.increasing⟩

def erase (name : String) (s : NameSet) : NameSet :=
  ⟨s.toList.filter (· ≠ name), s.increasing.filter _⟩

/-- The set of the names that a list holds, in whatever order and however often. -/
def ofList (names : List String) : NameSet := names.foldr insert empty

/-- The names of the first set and those of the second. -/
def union (s t : NameSet) : NameSet := s.toList.foldr insert t

def filter (p : String → Bool) (s : NameSet) : NameSet :=
  ⟨s.toList.filter p, s.increasing.filter _⟩

/-- The names of the first set that are not in the second. -/
def diff (s t : NameSet) : NameSet := s.filter (· ∉ t)

/-! ## Membership -/

theorem not_mem_empty (name : String) : name ∉ empty := by
  change name ∉ ([] : List String)
  simp

@[simp] theorem mem_insert {x name : String} {s : NameSet} :
    x ∈ s.insert name ↔ x = name ∨ x ∈ s := by
  refine (Text.mem_place s.increasing).trans ?_
  by_cases h : x = name <;> simp [h, mem_toList]

@[simp] theorem mem_erase {x name : String} {s : NameSet} :
    x ∈ s.erase name ↔ x ∈ s ∧ x ≠ name := by
  change x ∈ s.toList.filter _ ↔ _
  simp [mem_toList]

@[simp] theorem mem_filter {x : String} {p : String → Bool} {s : NameSet} :
    x ∈ s.filter p ↔ x ∈ s ∧ p x = true := by
  change x ∈ s.toList.filter _ ↔ _
  simp [mem_toList]

@[simp] theorem mem_diff {x : String} {s t : NameSet} : x ∈ s.diff t ↔ x ∈ s ∧ x ∉ t := by
  simp [diff]

@[simp] theorem mem_ofList {x : String} {names : List String} : x ∈ ofList names ↔ x ∈ names := by
  induction names with
  | nil => exact iff_of_false (not_mem_empty x) (by simp)
  | cons y rest ih => exact mem_insert.trans ((or_congr_right ih).trans List.mem_cons.symm)

@[simp] theorem mem_union {x : String} {s t : NameSet} : x ∈ s.union t ↔ x ∈ s ∨ x ∈ t := by
  have key : ∀ l : List String, x ∈ l.foldr insert t ↔ x ∈ l ∨ x ∈ t := by
    intro l
    induction l with
    | nil => simp
    | cons y rest ih => simp [ih, or_assoc]
  exact key s.toList

/-! ## Two sets with the same members are the same list -/

@[ext] theorem ext_mem {s t : NameSet} (h : ∀ x, x ∈ s ↔ x ∈ t) : s = t := by
  have hlist : s.toList = t.toList := Text.eq_of_mem_iff id s.increasing t.increasing h
  cases s
  cases t
  rw [mk.injEq]
  exact hlist

/-! ## Names that come and go one after the other -/

/-- Puts a name into the set, and says whether it was not there. -/
def add (name : String) (s : NameSet) : Bool × NameSet := (name ∉ s, s.insert name)

/-- Takes a name out of the set, and says whether it was there. -/
def remove (name : String) (s : NameSet) : Bool × NameSet := (name ∈ s, s.erase name)

/-- Takes a step with each listed name, on the set that the steps before it have left: the names
whose step says yes, in the order of the list, and the set after the last step. -/
def sift (step : String → NameSet → Bool × NameSet) : List String → NameSet → List String × NameSet
  | [], s => ([], s)
  | name :: rest, s =>
    let (yes, after) := step name s
    let (told, last) := sift step rest after
    (if yes then name :: told else told, last)

theorem sift_cons {step : String → NameSet → Bool × NameSet} {name : String} {rest : List String}
    {s : NameSet} : sift step (name :: rest) s =
      (if (step name s).1 then name :: (sift step rest (step name s).2).1
        else (sift step rest (step name s).2).1, (sift step rest (step name s).2).2) := rfl

/-- A step settles names as members, or as none, if its name is one after it, or is none, while all
others are what they were, and if it says yes exactly when that is new. -/
structure Settles (step : String → NameSet → Bool × NameSet) (member : Prop) : Prop where
  /-- It says yes if the name was not settled. -/
  yes_iff (name : String) (s : NameSet) : (step name s).1 = true ↔ ¬(name ∈ s ↔ member)
  /-- It settles the name, and no other. -/
  mem_iff (name : String) (s : NameSet) (x : String) :
    x ∈ (step name s).2 ↔ if x = name then member else x ∈ s

theorem settles_add : Settles add True where
  yes_iff name s := by simp [add]
  mem_iff name s x := by by_cases h : x = name <;> simp [add, h]

theorem settles_remove : Settles remove False where
  yes_iff name s := by simp [remove]
  mem_iff name s x := by by_cases h : x = name <;> simp [remove, h]

namespace Settles

variable {step : String → NameSet → Bool × NameSet} {member : Prop} (h : Settles step member)
include h

theorem mem_sift_snd {names : List String} {s : NameSet} {x : String} :
    x ∈ (sift step names s).2 ↔ if x ∈ names then member else x ∈ s := by
  induction names generalizing s with
  | nil => simp [sift]
  | cons name rest ih =>
    rw [sift_cons, ih, h.mem_iff]
    by_cases hrest : x ∈ rest <;> simp [hrest]

/-- A step says yes to the listed names that were not settled at the beginning. -/
theorem mem_sift_fst {names : List String} {s : NameSet} {x : String} :
    x ∈ (sift step names s).1 ↔ x ∈ names ∧ ¬(x ∈ s ↔ member) := by
  induction names generalizing s with
  | nil => simp [sift]
  | cons name rest ih =>
    -- What comes later is judged by a set in which the first name is settled.
    have hlater : x ∈ (sift step rest (step name s).2).1 ↔
        x ≠ name ∧ x ∈ rest ∧ ¬(x ∈ s ↔ member) := by
      rw [ih, h.mem_iff]
      by_cases hx : x = name <;> simp [hx]
    have hyes_iff := h.yes_iff name s
    rw [sift_cons]
    by_cases hyes : (step name s).1 = true
    · rw [if_pos hyes, List.mem_cons, hlater, List.mem_cons]
      by_cases hx : x = name
      · subst hx
        simp [← hyes_iff, hyes]
      · simp [hx]
    · rw [if_neg hyes, hlater, List.mem_cons]
      by_cases hx : x = name
      · subst hx
        simp [← hyes_iff, hyes]
      · simp [hx]

/-- No name is said yes to twice, for the first time settles it. -/
theorem nodup_sift_fst {names : List String} {s : NameSet} : (sift step names s).1.Nodup := by
  induction names generalizing s with
  | nil => exact .nil
  | cons name rest ih =>
    have hlater : name ∉ (sift step rest (step name s).2).1 := by
      rw [h.mem_sift_fst, h.mem_iff, if_pos rfl]
      simp
    rw [sift_cons]
    dsimp only
    split
    · exact List.nodup_cons.2 ⟨hlater, ih⟩
    · exact ih

/-- So the names said yes to make a set by being put in order. -/
theorem perm_ofList_sift_fst {names : List String} {s : NameSet} :
    (ofList (sift step names s).1).toList.Perm (sift step names s).1 :=
  (List.perm_ext_iff_of_nodup (Text.nodup_of_increasing id (increasing _))
    h.nodup_sift_fst).2 fun _ ↦ mem_ofList

end Settles

end NameSet

end ProxyFleet
