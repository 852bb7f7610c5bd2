import Mathlib

/-
  The associative containers of the C++ standard library
  that the program uses, as far as it uses them.

  `OrderedSet` is `std::set` under a comparison by key: a
  list that is strictly increasing in the key, so that the
  first element is `begin()` and an element whose key is
  present is not inserted again. `OrderedMultimap` is
  `std::multimap`, with equal keys in insertion order, and
  `UnorderedMap` is `std::unordered_map`.

  Main declarations:
    * `OrderedSet`
    * `OrderedSet.insert`
    * `OrderedSet.mem_insert_iff`
    * `OrderedSet.mem_eraseFirst_iff`
    * `OrderedMultimap`
    * `OrderedMultimap.place`
    * `UnorderedMap`
-/

------------------------------------------------------------
-- Sets Ordered by a Key
------------------------------------------------------------

/- A set whose elements are kept in increasing key order. -/
structure OrderedSet
    (α : Type)
    {κ : Type}
    [LinearOrder κ]
    (key : α → κ) where
  elems : List α
  sorted : elems.Pairwise (fun a b => key a < key b)

namespace OrderedSet

variable {α κ : Type} [LinearOrder κ] {key : α → κ}

instance : Membership α (OrderedSet α key) :=
  ⟨fun set a => a ∈ set.elems⟩

theorem mem_def
    {set : OrderedSet α key}
    {a : α} :
    a ∈ set ↔ a ∈ set.elems :=
  Iff.rfl

instance
    [DecidableEq α]
    (a : α)
    (set : OrderedSet α key) :
    Decidable (a ∈ set) :=
  inferInstanceAs (Decidable (a ∈ set.elems))

/- The empty set. -/
def empty : OrderedSet α key :=
  ⟨[], List.Pairwise.nil⟩

/- The number of elements. -/
def size (set : OrderedSet α key) : Nat :=
  set.elems.length

@[simp] theorem not_mem_empty
    (a : α) :
    a ∉ (empty : OrderedSet α key) := by
  simp [mem_def, empty]

/- Insertion into a sorted list, keeping an equal key. -/
def insertList
    (key : α → κ)
    (a : α) : List α → List α
| [] => [a]
| b :: bs =>
    if key a < key b then
      a :: b :: bs
    else if key b < key a then
      b :: insertList key a bs
    else
      b :: bs

/- Every inserted element is the new one or an old one. -/
theorem mem_of_mem_insertList
    {a b : α}
    {bs : List α}
    (hMember : b ∈ insertList key a bs) :
    b = a ∨ b ∈ bs := by
  induction bs with
  | nil =>
      simpa [insertList] using hMember
  | cons c bs ih =>
      unfold insertList at hMember
      split_ifs at hMember with hLess hGreater
      · simpa using hMember
      · rcases List.mem_cons.mp hMember with hHead | hTail
        · exact Or.inr (by simp [hHead])
        · rcases ih hTail with hNew | hOld
          · exact Or.inl hNew
          · exact Or.inr (List.mem_cons_of_mem _ hOld)
      · exact Or.inr hMember

/- Insertion keeps the strict key order. -/
theorem pairwise_insertList
    (a : α)
    {bs : List α}
    (hSorted : bs.Pairwise (fun a b => key a < key b)) :
    (insertList key a bs).Pairwise
      (fun a b => key a < key b) := by
  induction bs with
  | nil =>
      simp [insertList]
  | cons c bs ih =>
      rw [List.pairwise_cons] at hSorted
      unfold insertList
      split_ifs with hLess hGreater
      · refine List.Pairwise.cons ?_ ?_
        · intro d hMember
          rcases List.mem_cons.mp hMember with rfl | hTail
          · exact hLess
          · exact lt_trans hLess (hSorted.1 d hTail)
        · exact List.pairwise_cons.mpr hSorted
      · refine List.Pairwise.cons ?_ (ih hSorted.2)
        intro d hMember
        rcases mem_of_mem_insertList hMember with
          rfl | hOld
        · exact hGreater
        · exact hSorted.1 d hOld
      · exact List.pairwise_cons.mpr hSorted

/- `insert`: nothing happens when the key is present. -/
def insert
    (set : OrderedSet α key)
    (a : α) : OrderedSet α key :=
  ⟨insertList key a set.elems,
    pairwise_insertList a set.sorted⟩

/- Insertion adds at most the new element to a count. -/
theorem countP_insert_le
    (p : α → Bool)
    (set : OrderedSet α key)
    (a : α) :
    (set.insert a).elems.countP p ≤
      set.elems.countP p + (p a).toNat := by
  rcases set with ⟨bs, hSorted⟩
  change (insertList key a bs).countP p ≤
    bs.countP p + (p a).toNat
  clear hSorted
  induction bs with
  | nil =>
      unfold insertList
      cases hNew : p a with
      | false => simp [hNew]
      | true => simp [hNew]
  | cons b bs ih =>
      unfold insertList
      split_ifs with hLess hGreater
      · rw [List.countP_cons (l := b :: bs)]
        cases hNew : p a with
        | false => simp
        | true => simp
      · rw [List.countP_cons, List.countP_cons]
        omega
      · exact Nat.le_add_right _ _

/- An element is determined by its key. -/
theorem eq_of_key_eq
    {set : OrderedSet α key}
    {a b : α}
    (hLeft : a ∈ set)
    (hRight : b ∈ set)
    (hKey : key a = key b) :
    a = b := by
  rcases List.mem_iff_getElem.mp hLeft with
    ⟨i, hi, rfl⟩
  rcases List.mem_iff_getElem.mp hRight with
    ⟨j, hj, rfl⟩
  have hOrder := List.pairwise_iff_getElem.mp set.sorted
  rcases lt_trichotomy i j with hLess | hEqual | hGreater
  · exact absurd hKey (hOrder i j hi hj hLess).ne
  · subst hEqual
    rfl
  · exact absurd hKey (hOrder j i hj hi hGreater).ne'

/-
  The members after an insertion: the old ones, and the new
  one if its key was not taken.
-/
theorem mem_insert_iff
    {set : OrderedSet α key}
    {a b : α} :
    b ∈ set.insert a ↔
      b ∈ set ∨
        b = a ∧ ∀ c ∈ set, key c ≠ key a := by
  rcases set with ⟨bs, hSorted⟩
  simp only [mem_def, insert]
  induction bs with
  | nil =>
      simp [insertList]
  | cons c bs ih =>
      have hTail := ih (List.pairwise_cons.mp hSorted).2
      have hHead := (List.pairwise_cons.mp hSorted).1
      unfold insertList
      split_ifs with hLess hGreater
      · have hFresh :
            ∀ d ∈ c :: bs, key d ≠ key a := by
          intro d hMember
          rcases List.mem_cons.mp hMember with rfl | hOld
          · exact hLess.ne'
          · exact (lt_trans hLess (hHead d hOld)).ne'
        simp only [List.mem_cons] at hFresh ⊢
        constructor
        · rintro (rfl | hOld)
          · exact Or.inr ⟨rfl, hFresh⟩
          · exact Or.inl hOld
        · rintro (hOld | ⟨rfl, _⟩)
          · exact Or.inr hOld
          · exact Or.inl rfl
      · rw [List.mem_cons, hTail, List.mem_cons]
        constructor
        · rintro (rfl | hOld | ⟨rfl, hFresh⟩)
          · exact Or.inl (Or.inl rfl)
          · exact Or.inl (Or.inr hOld)
          · refine Or.inr ⟨rfl, ?_⟩
            intro d hMember
            rcases List.mem_cons.mp hMember with
              rfl | hOld
            · exact hGreater.ne
            · exact hFresh d hOld
        · rintro ((rfl | hOld) | ⟨rfl, hFresh⟩)
          · exact Or.inl rfl
          · exact Or.inr (Or.inl hOld)
          · refine Or.inr (Or.inr ⟨rfl, ?_⟩)
            intro d hMember
            exact hFresh d (List.mem_cons_of_mem _ hMember)
      · have hTaken : key c = key a :=
          le_antisymm (not_lt.mp hLess)
            (not_lt.mp hGreater)
        constructor
        · exact Or.inl
        · rintro (hOld | ⟨rfl, hFresh⟩)
          · exact hOld
          · exact absurd hTaken
              (hFresh c List.mem_cons_self)

/- Insertion loses no member. -/
theorem mem_insert_of_mem
    {set : OrderedSet α key}
    {a b : α}
    (hMember : b ∈ set) :
    b ∈ set.insert a :=
  mem_insert_iff.mpr (Or.inl hMember)

/- Nothing is inserted when the key is present. -/
theorem insert_of_key_mem
    {set : OrderedSet α key}
    {a b : α}
    (hMember : b ∈ set)
    (hKey : key b = key a) :
    set.insert a = set := by
  rcases set with ⟨bs, hSorted⟩
  suffices hList : insertList key a bs = bs by
    simp only [insert, hList]
  simp only [mem_def] at hMember
  induction bs with
  | nil => simp at hMember
  | cons c bs ih =>
      have hHead := (List.pairwise_cons.mp hSorted).1
      unfold insertList
      rcases List.mem_cons.mp hMember with rfl | hTail
      · rw [if_neg hKey.not_gt, if_neg hKey.not_lt]
      · have hBelow : key c < key a := by
          rw [← hKey]
          exact hHead b hTail
        rw [if_neg hBelow.not_gt, if_pos hBelow,
          ih (List.pairwise_cons.mp hSorted).2 hTail]

/- After an insertion the key is present. -/
theorem exists_mem_insert
    (set : OrderedSet α key)
    (a : α) :
    ∃ b ∈ set.insert a, key b = key a := by
  by_cases hTaken : ∃ b ∈ set, key b = key a
  · rcases hTaken with ⟨b, hMember, hKey⟩
    exact ⟨b, mem_insert_of_mem hMember, hKey⟩
  · refine ⟨a, mem_insert_iff.mpr (Or.inr ⟨rfl, ?_⟩), rfl⟩
    intro b hMember hKey
    exact hTaken ⟨b, hMember, hKey⟩

/- `begin()`, when there is one. -/
def first? (set : OrderedSet α key) : Option α :=
  set.elems.head?

/- `erase(begin())`. -/
def eraseFirst
    (set : OrderedSet α key) : OrderedSet α key :=
  ⟨set.elems.tail, set.sorted.tail⟩

/- The first element is a member of least key. -/
theorem first?_eq_some
    {set : OrderedSet α key}
    {a : α}
    (hFirst : set.first? = some a) :
    a ∈ set ∧ ∀ b ∈ set, key a ≤ key b := by
  rcases set with ⟨_ | ⟨c, bs⟩, hSorted⟩
  · simp [first?] at hFirst
  · simp only [first?, List.head?_cons,
      Option.some.injEq] at hFirst
    subst hFirst
    refine ⟨List.mem_cons_self, ?_⟩
    intro b hMember
    rcases List.mem_cons.mp hMember with rfl | hTail
    · exact le_rfl
    · exact ((List.pairwise_cons.mp hSorted).1 b hTail).le

/- Only the empty set has no first element. -/
theorem first?_eq_none
    {set : OrderedSet α key}
    (hFirst : set.first? = none)
    (a : α) :
    a ∉ set := by
  rcases set with ⟨_ | ⟨c, bs⟩, hSorted⟩
  · simp [mem_def]
  · simp [first?] at hFirst

/- Erasing the first element removes just that element. -/
theorem mem_eraseFirst_iff
    {set : OrderedSet α key}
    {a b : α}
    (hFirst : set.first? = some a) :
    b ∈ set.eraseFirst ↔ b ∈ set ∧ key b ≠ key a := by
  rcases set with ⟨_ | ⟨c, bs⟩, hSorted⟩
  · simp [first?] at hFirst
  · simp only [first?, List.head?_cons,
      Option.some.injEq] at hFirst
    subst hFirst
    have hHead := (List.pairwise_cons.mp hSorted).1
    simp only [mem_def, eraseFirst, List.tail_cons,
      List.mem_cons]
    constructor
    · intro hTail
      exact ⟨Or.inr hTail, (hHead b hTail).ne'⟩
    · rintro ⟨rfl | hTail, hKey⟩
      · exact absurd rfl hKey
      · exact hTail

/- Erasing the first element shortens the set by one. -/
theorem size_eraseFirst
    {set : OrderedSet α key}
    {a : α}
    (hFirst : set.first? = some a) :
    set.size = set.eraseFirst.size + 1 := by
  rcases set with ⟨_ | ⟨c, bs⟩, hSorted⟩
  · simp [first?] at hFirst
  · simp [size, eraseFirst]

/- A set of size zero has no first element. -/
theorem first?_of_size_zero
    {set : OrderedSet α key}
    (hSize : set.size = 0) :
    set.first? = none := by
  rcases set with ⟨_ | ⟨c, bs⟩, hSorted⟩
  · rfl
  · simp [size] at hSize

end OrderedSet

------------------------------------------------------------
-- Multimaps Ordered by a Key
------------------------------------------------------------

/- A multimap whose entries are kept in key order. -/
structure OrderedMultimap (κ ν : Type) [LinearOrder κ] where
  entries : List (κ × ν)
  sorted : entries.Pairwise (fun a b => a.1 ≤ b.1)

namespace OrderedMultimap

variable {κ ν : Type} [LinearOrder κ]

/- The empty multimap. -/
def empty : OrderedMultimap κ ν :=
  ⟨[], List.Pairwise.nil⟩

/- Insertion behind the entries of the same key. -/
def emplaceList
    (k : κ)
    (v : ν) : List (κ × ν) → List (κ × ν)
| [] => [(k, v)]
| entry :: entries =>
    if k < entry.1 then
      (k, v) :: entry :: entries
    else
      entry :: emplaceList k v entries

theorem mem_emplaceList
    {k : κ}
    {v : ν}
    {entry : κ × ν}
    {entries : List (κ × ν)} :
    entry ∈ emplaceList k v entries ↔
      entry = (k, v) ∨ entry ∈ entries := by
  induction entries with
  | nil =>
      simp [emplaceList]
  | cons head entries ih =>
      unfold emplaceList
      split_ifs
      · simp
      · rw [List.mem_cons, ih, List.mem_cons]
        exact or_left_comm

/- Insertion adds one entry. -/
theorem perm_emplaceList
    (k : κ)
    (v : ν)
    (entries : List (κ × ν)) :
    (emplaceList k v entries).Perm ((k, v) :: entries) := by
  induction entries with
  | nil => exact List.Perm.refl _
  | cons head entries ih =>
      unfold emplaceList
      split_ifs
      · exact List.Perm.refl _
      · exact (ih.cons head).trans
          (List.Perm.swap (k, v) head entries)

/- Insertion keeps the key order. -/
theorem pairwise_emplaceList
    (k : κ)
    (v : ν)
    {entries : List (κ × ν)}
    (hSorted : entries.Pairwise (fun a b => a.1 ≤ b.1)) :
    (emplaceList k v entries).Pairwise
      (fun a b => a.1 ≤ b.1) := by
  induction entries with
  | nil =>
      simp [emplaceList]
  | cons head entries ih =>
      have hHead := (List.pairwise_cons.mp hSorted).1
      have hTail := (List.pairwise_cons.mp hSorted).2
      unfold emplaceList
      split_ifs with hLess
      · refine List.Pairwise.cons ?_ hSorted
        intro entry hMember
        rcases List.mem_cons.mp hMember with rfl | hOld
        · exact hLess.le
        · exact hLess.le.trans (hHead entry hOld)
      · refine List.Pairwise.cons ?_ (ih hTail)
        intro entry hMember
        rcases mem_emplaceList.mp hMember with rfl | hOld
        · exact not_lt.mp hLess
        · exact hHead entry hOld

/- `emplace`. -/
def emplace
    (map : OrderedMultimap κ ν)
    (k : κ)
    (v : ν) : OrderedMultimap κ ν :=
  ⟨emplaceList k v map.entries,
    pairwise_emplaceList k v map.sorted⟩

/-
  The loop over `equal_range(k)` that erases the first entry
  of the value.
-/
def eraseEntry
    [DecidableEq ν]
    (map : OrderedMultimap κ ν)
    (k : κ)
    (v : ν) : OrderedMultimap κ ν :=
  ⟨map.entries.erase (k, v),
    map.sorted.sublist List.erase_sublist⟩

/- `begin()`, when there is one. -/
def first? (map : OrderedMultimap κ ν) : Option (κ × ν) :=
  map.entries.head?

/- `erase(begin())`. -/
def eraseFirst
    (map : OrderedMultimap κ ν) : OrderedMultimap κ ν :=
  ⟨map.entries.tail, map.sorted.tail⟩

/- The first entry is the first one of its value. -/
theorem eraseFirst_eq_eraseEntry
    [DecidableEq ν]
    {map : OrderedMultimap κ ν}
    {k : κ}
    {v : ν}
    (hFirst : map.first? = some (k, v)) :
    map.eraseFirst = map.eraseEntry k v := by
  rcases map with ⟨_ | ⟨entry, entries⟩, hSorted⟩
  · cases hFirst
  · cases hFirst
    unfold eraseFirst eraseEntry
    simp

/- How many entries are in front of the first such entry. -/
def place
    [DecidableEq ν]
    (map : OrderedMultimap κ ν)
    (k : κ)
    (v : ν) : Nat :=
  map.entries.idxOf (k, v)

theorem place_lt_length
    [DecidableEq ν]
    {map : OrderedMultimap κ ν}
    {k : κ}
    {v : ν}
    (hMember : (k, v) ∈ map.entries) :
    map.place k v < map.entries.length :=
  List.idxOf_lt_length_iff.mpr hMember

/- A key no smaller goes behind the entry. -/
theorem place_emplace
    [DecidableEq ν]
    {map : OrderedMultimap κ ν}
    {k k' : κ}
    {v : ν}
    (v' : ν)
    (hMember : (k, v) ∈ map.entries)
    (hKey : k ≤ k') :
    (map.emplace k' v').place k v = map.place k v := by
  rcases map with ⟨entries, hSorted⟩
  unfold place emplace
  dsimp only at hMember ⊢
  induction entries with
  | nil => cases hMember
  | cons entry entries ih =>
      rw [List.pairwise_cons] at hSorted
      unfold emplaceList
      by_cases hEntry : entry = (k, v)
      · subst hEntry
        rw [if_neg (not_lt.mpr hKey)]
        simp
      · have hRest : (k, v) ∈ entries :=
          (List.mem_cons.mp hMember).resolve_left
            (Ne.symm hEntry)
        have hBehind : entry.1 ≤ k :=
          hSorted.1 (k, v) hRest
        rw [if_neg (not_lt.mpr (hBehind.trans hKey)),
          List.idxOf_cons_ne _ hEntry,
          List.idxOf_cons_ne _ hEntry,
          ih hSorted.2 hRest]

/- Erasing another entry moves the entry to the front. -/
theorem place_eraseEntry_le
    [DecidableEq ν]
    (map : OrderedMultimap κ ν)
    {k k' : κ}
    {v v' : ν}
    (hOther : v' ≠ v) :
    (map.eraseEntry k' v').place k v ≤ map.place k v := by
  rcases map with ⟨entries, hSorted⟩
  unfold place eraseEntry
  dsimp only
  clear hSorted
  have hPair : (k', v') ≠ (k, v) :=
    fun hEqual => hOther (Prod.mk.inj hEqual).2
  induction entries with
  | nil => exact le_rfl
  | cons entry entries ih =>
      by_cases hErased : entry = (k', v')
      · subst hErased
        rw [List.erase_cons_head,
          List.idxOf_cons_ne _ hPair]
        exact Nat.le_succ _
      · rw [List.erase_cons_tail (by simpa using hErased)]
        by_cases hEntry : entry = (k, v)
        · subst hEntry
          simp
        · rw [List.idxOf_cons_ne _ hEntry,
            List.idxOf_cons_ne _ hEntry]
          exact Nat.succ_le_succ ih

/- The entry moves up when the first one is erased. -/
theorem place_eraseFirst
    [DecidableEq ν]
    {map : OrderedMultimap κ ν}
    {k : κ}
    {v : ν}
    {entry : κ × ν}
    (hFirst : map.first? = some entry)
    (hOther : entry ≠ (k, v)) :
    map.eraseFirst.place k v + 1 = map.place k v := by
  rcases map with ⟨_ | ⟨first, entries⟩, hSorted⟩
  · cases hFirst
  · cases hFirst
    exact (List.idxOf_cons_ne entries hOther).symm

/- No entry is in front of the first one. -/
theorem first?_le
    {map : OrderedMultimap κ ν}
    {entry first : κ × ν}
    (hFirst : map.first? = some first)
    (hMember : entry ∈ map.entries) :
    first.1 ≤ entry.1 := by
  rcases map with ⟨_ | ⟨head, entries⟩, hSorted⟩
  · cases hFirst
  · cases hFirst
    rcases List.mem_cons.mp hMember with rfl | hRest
    · exact le_rfl
    · exact (List.pairwise_cons.mp hSorted).1 entry hRest

end OrderedMultimap

------------------------------------------------------------
-- Unordered Maps
------------------------------------------------------------

/- A finite map, read through its lookup function. -/
abbrev UnorderedMap (κ ν : Type) :=
  κ → Option ν

namespace UnorderedMap

variable {κ ν : Type} [DecidableEq κ]

/- The map without entries. -/
def empty : UnorderedMap κ ν :=
  fun _ => none

/- `contains`. -/
def contains
    (map : UnorderedMap κ ν)
    (k : κ) : Bool :=
  (map k).isSome

/- `emplace`: an existing entry is kept. -/
def emplace
    (map : UnorderedMap κ ν)
    (k : κ)
    (v : ν) : UnorderedMap κ ν :=
  match map k with
  | some _ => map
  | none => Function.update map k (some v)

/- `erase`. -/
def erase
    (map : UnorderedMap κ ν)
    (k : κ) : UnorderedMap κ ν :=
  Function.update map k none

/- Assignment through `at`. -/
def assign
    (map : UnorderedMap κ ν)
    (k : κ)
    (v : ν) : UnorderedMap κ ν :=
  Function.update map k (some v)

omit [DecidableEq κ] in
@[simp] theorem empty_apply
    (k : κ) :
    (empty : UnorderedMap κ ν) k = none :=
  rfl

@[simp] theorem erase_apply
    (map : UnorderedMap κ ν)
    (k l : κ) :
    map.erase k l = if l = k then none else map l := by
  simp [erase, Function.update_apply]

@[simp] theorem assign_apply
    (map : UnorderedMap κ ν)
    (k l : κ)
    (v : ν) :
    map.assign k v l = if l = k then some v else map l := by
  simp [assign, Function.update_apply]

/- A lookup after `emplace`. -/
theorem emplace_apply
    (map : UnorderedMap κ ν)
    (k l : κ)
    (v : ν) :
    map.emplace k v l =
      if l = k then some ((map k).getD v) else map l := by
  unfold emplace
  by_cases hKey : l = k
  · subst hKey
    cases hOld : map l with
    | none => simp
    | some w => simp [hOld]
  · cases hOld : map k with
    | none => simp [hKey]
    | some w => simp [hKey]

end UnorderedMap
