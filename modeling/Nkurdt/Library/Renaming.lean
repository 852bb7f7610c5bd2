import Nkurdt.Library.Containers

/-
  Renaming the contents of containers.

  An unordered container does what it did after its keys have
  been renamed by a permutation. An ordered one does so only
  where the renaming keeps the order: its insertions commute
  with any renaming, its first element with one that keeps
  the least element least.

  Main declarations:
    * `OrderedSet.ext`
    * `OrderedSet.image`
    * `OrderedSet.image_insert`
    * `OrderedSet.first?_image`
    * `OrderedMultimap.mapValues`
    * `UnorderedMap.rename`
-/

------------------------------------------------------------
-- Images of Ordered Sets
------------------------------------------------------------

namespace OrderedSet

variable {α κ : Type} [LinearOrder κ] {key : α → κ}

/- A list in strict key order is determined by its members. -/
theorem eq_of_mem_iff
    {as bs : List α}
    (hLeft : as.Pairwise (fun a b => key a < key b))
    (hRight : bs.Pairwise (fun a b => key a < key b))
    (hMembers : ∀ a, a ∈ as ↔ a ∈ bs) :
    as = bs := by
  induction as generalizing bs with
  | nil =>
      cases bs with
      | nil => rfl
      | cons b bs =>
          exact absurd ((hMembers b).mpr List.mem_cons_self)
            List.not_mem_nil
  | cons a as ih =>
      cases bs with
      | nil =>
          exact absurd ((hMembers a).mp List.mem_cons_self)
            List.not_mem_nil
      | cons b bs =>
          rw [List.pairwise_cons] at hLeft hRight
          have hHead : a = b := by
            rcases List.mem_cons.mp
                ((hMembers a).mp List.mem_cons_self) with
              hSame | hLater
            · exact hSame
            · rcases List.mem_cons.mp
                  ((hMembers b).mpr List.mem_cons_self) with
                hSame | hAfter
              · exact hSame.symm
              · exact absurd (hRight.1 a hLater)
                  (hLeft.1 b hAfter).not_gt
          subst hHead
          congr 1
          refine ih hLeft.2 hRight.2 ?_
          intro c
          have hBoth := hMembers c
          rw [List.mem_cons, List.mem_cons] at hBoth
          constructor
          · intro hMember
            refine (hBoth.mp (Or.inr hMember)).resolve_left ?_
            rintro rfl
            exact (hLeft.1 c hMember).false
          · intro hMember
            refine (hBoth.mpr (Or.inr hMember)).resolve_left ?_
            rintro rfl
            exact (hRight.1 c hMember).false

theorem ext
    {s t : OrderedSet α key}
    (hMembers : ∀ a, a ∈ s ↔ a ∈ t) :
    s = t := by
  rcases s with ⟨as, hLeft⟩
  rcases t with ⟨bs, hRight⟩
  have hSame : as = bs :=
    eq_of_mem_iff hLeft hRight hMembers
  subst hSame
  rfl

/- The images of the elements, in the order of their keys. -/
def image
    (set : OrderedSet α key)
    (f : α → α) : OrderedSet α key :=
  set.elems.foldr (fun a images => images.insert (f a)) empty

section Image

variable {f : α → α}

theorem mem_image
    {set : OrderedSet α key}
    {b : α}
    (hKeys : ∀ a b, key (f a) = key (f b) → key a = key b) :
    b ∈ set.image f ↔ ∃ a ∈ set, f a = b := by
  rcases set with ⟨as, hSorted⟩
  unfold image
  simp only [mem_def]
  induction as generalizing b with
  | nil =>
      simp [empty]
  | cons a as ih =>
      rw [List.pairwise_cons] at hSorted
      have hTail := fun c => ih (b := c) hSorted.2
      rw [List.foldr_cons, ← mem_def, mem_insert_iff]
      simp only [mem_def, hTail, List.mem_cons]
      constructor
      · rintro (⟨c, hMember, rfl⟩ | ⟨rfl, _⟩)
        · exact ⟨c, Or.inr hMember, rfl⟩
        · exact ⟨a, Or.inl rfl, rfl⟩
      · rintro ⟨c, rfl | hMember, rfl⟩
        · refine Or.inr ⟨rfl, ?_⟩
          rintro d ⟨e, hLater, rfl⟩ hSame
          exact (hSorted.1 e hLater).ne (hKeys e c hSame).symm
        · exact Or.inl ⟨c, hMember, rfl⟩

theorem image_insert
    (hKeys : ∀ a b, key (f a) = key (f b) ↔ key a = key b)
    (set : OrderedSet α key)
    (a : α) :
    (set.insert a).image f = (set.image f).insert (f a) := by
  have hReflects := fun a b => (hKeys a b).mp
  apply ext
  intro b
  rw [mem_image hReflects, mem_insert_iff,
    mem_image hReflects]
  constructor
  · rintro ⟨c, hMember, rfl⟩
    rcases mem_insert_iff.mp hMember with
      hOld | ⟨rfl, hFresh⟩
    · exact Or.inl ⟨c, hOld, rfl⟩
    · refine Or.inr ⟨rfl, ?_⟩
      intro d hImage hSame
      rcases (mem_image hReflects).mp hImage with
        ⟨e, hElem, rfl⟩
      exact hFresh e hElem (hReflects e c hSame)
  · rintro (⟨c, hOld, rfl⟩ | ⟨rfl, hFresh⟩)
    · exact ⟨c, mem_insert_of_mem hOld, rfl⟩
    · refine ⟨a, mem_insert_iff.mpr (Or.inr ⟨rfl, ?_⟩), rfl⟩
      intro c hMember hSame
      exact hFresh (f c)
        ((mem_image hReflects).mpr ⟨c, hMember, rfl⟩)
        ((hKeys c a).mpr hSame)

/- The least element is the first one. -/
theorem first?_of_least
    {set : OrderedSet α key}
    {a : α}
    (hMember : a ∈ set)
    (hLeast : ∀ b ∈ set, key a ≤ key b) :
    set.first? = some a := by
  cases hFirst : set.first? with
  | none => exact absurd hMember (first?_eq_none hFirst a)
  | some c =>
      have hLow := first?_eq_some hFirst
      rw [eq_of_key_eq hLow.1 hMember
        (le_antisymm (hLow.2 a hMember) (hLeast c hLow.1))]

/- The first image, when the first element stays least. -/
theorem first?_image
    {set : OrderedSet α key}
    {a : α}
    (hKeys : ∀ a b, key (f a) = key (f b) → key a = key b)
    (hFirst : set.first? = some a)
    (hLeast : ∀ b ∈ set, key (f a) ≤ key (f b)) :
    (set.image f).first? = some (f a) := by
  apply first?_of_least
  · exact (mem_image hKeys).mpr
      ⟨a, (first?_eq_some hFirst).1, rfl⟩
  · intro b hImage
    rcases (mem_image hKeys).mp hImage with
      ⟨c, hMember, rfl⟩
    exact hLeast c hMember

theorem first?_image_of_none
    {set : OrderedSet α key}
    (hKeys : ∀ a b, key (f a) = key (f b) → key a = key b)
    (hFirst : set.first? = none) :
    (set.image f).first? = none := by
  cases hImage : (set.image f).first? with
  | none => rfl
  | some b =>
      rcases (mem_image hKeys).mp
          (first?_eq_some hImage).1 with
        ⟨a, hMember, _⟩
      exact absurd hMember (first?_eq_none hFirst a)

theorem eraseFirst_image
    {set : OrderedSet α key}
    {a : α}
    (hKeys : ∀ a b, key (f a) = key (f b) ↔ key a = key b)
    (hFirst : set.first? = some a)
    (hLeast : ∀ b ∈ set, key (f a) ≤ key (f b)) :
    (set.image f).eraseFirst = set.eraseFirst.image f := by
  have hReflects := fun a b => (hKeys a b).mp
  have hImage := first?_image hReflects hFirst hLeast
  apply ext
  intro b
  rw [mem_eraseFirst_iff hImage, mem_image hReflects,
    mem_image hReflects]
  constructor
  · rintro ⟨⟨c, hMember, rfl⟩, hOther⟩
    refine ⟨c, (mem_eraseFirst_iff hFirst).mpr
      ⟨hMember, ?_⟩, rfl⟩
    exact fun hSame => hOther ((hKeys c a).mpr hSame)
  · rintro ⟨c, hMember, rfl⟩
    have hOld := (mem_eraseFirst_iff hFirst).mp hMember
    exact ⟨⟨c, hOld.1, rfl⟩,
      fun hSame => hOld.2 (hReflects c a hSame)⟩

/- A fresh key makes the set larger by one. -/
theorem size_insert
    {set : OrderedSet α key}
    {a : α}
    (hFresh : ∀ b ∈ set, key b ≠ key a) :
    (set.insert a).size = set.size + 1 := by
  rcases set with ⟨bs, hSorted⟩
  unfold insert size
  simp only [mem_def] at hFresh
  dsimp only
  induction bs with
  | nil => rfl
  | cons b bs ih =>
      have hTail :=
        ih (List.pairwise_cons.mp hSorted).2
          (fun c hMember =>
            hFresh c (List.mem_cons_of_mem b hMember))
      unfold insertList
      split_ifs with hLess hGreater
      · rfl
      · rw [List.length_cons, hTail, List.length_cons]
      · exact absurd
          (le_antisymm (not_lt.mp hLess) (not_lt.mp hGreater))
          (hFresh b List.mem_cons_self)

theorem size_image
    (hKeys : ∀ a b, key (f a) = key (f b) → key a = key b)
    (set : OrderedSet α key) :
    (set.image f).size = set.size := by
  rcases set with ⟨as, hSorted⟩
  induction as with
  | nil => rfl
  | cons a as ih =>
      have hOrder := List.pairwise_cons.mp hSorted
      have hTail := ih hOrder.2
      change
        ((image ⟨as, hOrder.2⟩ f).insert (f a)).size =
          as.length + 1
      rw [size_insert, hTail]
      · rfl
      · intro b hImage hSame
        rcases (mem_image hKeys).mp hImage with
          ⟨c, hMember, rfl⟩
        exact (hOrder.1 c hMember).ne (hKeys c a hSame).symm

end Image

end OrderedSet

------------------------------------------------------------
-- Values of Ordered Multimaps
------------------------------------------------------------

namespace OrderedMultimap

variable {κ ν : Type} [LinearOrder κ]

/- The same keys with other values. -/
def mapValues
    (map : OrderedMultimap κ ν)
    (f : ν → ν) : OrderedMultimap κ ν :=
  ⟨map.entries.map (Prod.map id f),
    map.sorted.map _ (fun _ _ hLe => hLe)⟩

theorem mapValues_emplace
    (map : OrderedMultimap κ ν)
    (f : ν → ν)
    (k : κ)
    (v : ν) :
    (map.emplace k v).mapValues f =
      (map.mapValues f).emplace k (f v) := by
  rcases map with ⟨entries, hSorted⟩
  suffices hList :
      (emplaceList k v entries).map (Prod.map id f) =
        emplaceList k (f v)
          (entries.map (Prod.map id f)) by
    simp only [mapValues, emplace, hList]
  clear hSorted
  induction entries with
  | nil => rfl
  | cons entry entries ih =>
      simp only [List.map_cons, emplaceList, Prod.map_fst,
        id_eq]
      split_ifs
      · rfl
      · rw [List.map_cons, ih]

theorem mapValues_eraseEntry
    [DecidableEq ν]
    {f : ν → ν}
    (hInjective : Function.Injective f)
    (map : OrderedMultimap κ ν)
    (k : κ)
    (v : ν) :
    (map.eraseEntry k v).mapValues f =
      (map.mapValues f).eraseEntry k (f v) := by
  have hPairs :
      Function.Injective (Prod.map (id : κ → κ) f) :=
    Function.Injective.prodMap Function.injective_id
      hInjective
  unfold mapValues eraseEntry
  simp only [List.map_erase hPairs, Prod.map_apply, id_eq]

theorem mapValues_first?
    (map : OrderedMultimap κ ν)
    (f : ν → ν) :
    (map.mapValues f).first? =
      map.first?.map (Prod.map id f) :=
  List.head?_map

theorem mapValues_eraseFirst
    (map : OrderedMultimap κ ν)
    (f : ν → ν) :
    (map.mapValues f).eraseFirst =
      map.eraseFirst.mapValues f := by
  unfold mapValues eraseFirst
  simp only [List.map_tail]

end OrderedMultimap

------------------------------------------------------------
-- Renamed Keys of Unordered Maps
------------------------------------------------------------

namespace UnorderedMap

variable {κ ν : Type} [DecidableEq κ]

/- The keys renamed, and the values changed on the way. -/
def rename
    (map : UnorderedMap κ ν)
    (σ : Equiv.Perm κ)
    (g : ν → ν) : UnorderedMap κ ν :=
  fun k => (map (σ.symm k)).map g

variable (map : UnorderedMap κ ν) (σ : Equiv.Perm κ)
variable (g : ν → ν) (k : κ) (v : ν)

omit [DecidableEq κ] in
@[simp] theorem rename_apply :
    map.rename σ g (σ k) = (map k).map g := by
  unfold rename
  rw [Equiv.symm_apply_apply]

theorem rename_erase :
    (map.erase k).rename σ g = (map.rename σ g).erase (σ k) := by
  funext l
  simp only [rename, erase_apply]
  by_cases hKey : l = σ k
  · subst hKey
    simp
  · have hOther : σ.symm l ≠ k := by
      rintro rfl
      exact hKey (σ.apply_symm_apply l).symm
    simp [hKey, hOther]

theorem rename_assign :
    (map.assign k v).rename σ g =
      (map.rename σ g).assign (σ k) (g v) := by
  funext l
  simp only [rename, assign_apply]
  by_cases hKey : l = σ k
  · subst hKey
    simp
  · have hOther : σ.symm l ≠ k := by
      rintro rfl
      exact hKey (σ.apply_symm_apply l).symm
    simp [hKey, hOther]

theorem rename_emplace :
    (map.emplace k v).rename σ g =
      (map.rename σ g).emplace (σ k) (g v) := by
  unfold emplace
  rw [rename_apply]
  cases hOld : map k with
  | none => exact rename_assign map σ g k v
  | some w => rfl

end UnorderedMap
