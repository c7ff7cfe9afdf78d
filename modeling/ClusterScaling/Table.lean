/-!
# Tables sorted by name

Custom readings, zone plans, breakers and counters are all kept under a
name and shown in the order of their names. A table is a list of entries
in ascending order of the names, by code point, each name at most once;
`insert` keeps it so, and `get?` is the view through which everything
else is said.
-/

namespace ClusterScaling

/-- Entries under distinct names, in ascending order of the names. -/
structure Table (α : Type) where
  /-- The entries in ascending order. -/
  entries : List (String × α)
  deriving DecidableEq

namespace Table

variable {α β : Type}

/-- The table without entries. -/
def empty : Table α := ⟨[]⟩

instance : Inhabited (Table α) := ⟨empty⟩

/-- The value under a name in a list of entries. -/
def lookup (name : String) : List (String × α) → Option α
  | [] => none
  | e :: es => if e.1 = name then some e.2 else lookup name es

/-- Puts a value under a name in a sorted list of entries. -/
def put (name : String) (value : α) : List (String × α) → List (String × α)
  | [] => [(name, value)]
  | e :: es =>
    if name = e.1 then (name, value) :: es
    else if name < e.1 then (name, value) :: e :: es
    else e :: put name value es

/-- The value under a name. -/
def get? (t : Table α) (name : String) : Option α := lookup name t.entries

/-- The table with a value put under a name, in place of what stood there. -/
def insert (t : Table α) (name : String) (value : α) : Table α := ⟨put name value t.entries⟩

/-- The table without the value under a name. -/
def erase (t : Table α) (name : String) : Table α := ⟨t.entries.filter fun e => e.1 ≠ name⟩

/-- The table of a list of entries; of several values under one name the last stays. -/
def ofList (es : List (String × α)) : Table α :=
  es.foldl (fun t e => t.insert e.1 e.2) empty

/-- The names in ascending order. -/
def keys (t : Table α) : List String := t.entries.map (·.1)

/-- The values in the order of their names. -/
def values (t : Table α) : List α := t.entries.map (·.2)

/-- The table with a function applied to every value. -/
def map (f : α → β) (t : Table α) : Table β := ⟨t.entries.map fun e => (e.1, f e.2)⟩

@[simp]
theorem get?_empty (name : String) : (empty : Table α).get? name = none := rfl

theorem lookup_put (name other : String) (value : α) (es : List (String × α)) :
    lookup other (put name value es) = if name = other then some value else lookup other es := by
  induction es with
  | nil => simp [put, lookup]
  | cons e es ih =>
    unfold put
    split
    · next h => subst h; by_cases ho : e.1 = other <;> simp [lookup, ho]
    · split
      · simp [lookup]
      · next h _ =>
        simp only [lookup, ih]
        by_cases ho : name = other
        · subst ho; simp [Ne.symm h]
        · simp [ho]

theorem lookup_filter_ne (name other : String) (es : List (String × α)) :
    lookup other (es.filter fun e => e.1 ≠ name)
      = if name = other then none else lookup other es := by
  induction es with
  | nil => simp [lookup]
  | cons e es ih =>
    by_cases he : e.1 = name
    · subst he
      rw [List.filter_cons_of_neg (by simp), ih, lookup]
      by_cases ho : e.1 = other <;> simp [ho]
    · rw [List.filter_cons_of_pos (by simpa using he), lookup, lookup, ih]
      by_cases ho : e.1 = other
      · subst ho; simp [Ne.symm he]
      · simp [ho]

/-- A new name adds an entry and moves none. -/
theorem perm_put {name : String} {es : List (String × α)} (hnew : name ∉ es.map (·.1))
    (value : α) : (put name value es).Perm ((name, value) :: es) := by
  induction es with
  | nil => exact List.Perm.refl _
  | cons e es ih =>
    rw [List.map_cons, List.mem_cons, not_or] at hnew
    unfold put
    rw [if_neg hnew.1]
    split
    · exact List.Perm.refl _
    · exact ((ih hnew.2).cons e).trans (List.Perm.swap _ _ es)

/-- Entries under distinct new names are added to those that are there. -/
theorem perm_foldl_insert {es : List (String × α)} (hnodup : (es.map (·.1)).Nodup) {t : Table α}
    (hnew : ∀ e ∈ es, e.1 ∉ t.keys) :
    (es.foldl (fun t e => t.insert e.1 e.2) t).entries.Perm (es ++ t.entries) := by
  induction es generalizing t with
  | nil => exact List.Perm.refl _
  | cons e es ih =>
    rw [List.map_cons, List.nodup_cons] at hnodup
    rw [List.forall_mem_cons] at hnew
    have hput : (t.insert e.1 e.2).entries.Perm (e :: t.entries) := perm_put hnew.1 e.2
    refine (ih hnodup.2 fun f hf hmem => ?_).trans ((hput.append_left es).trans List.perm_middle)
    rcases List.mem_cons.mp ((hput.map (·.1)).mem_iff.mp hmem) with heq | hold
    · have hname : f.1 = e.1 := heq
      exact hnodup.1 (hname ▸ List.mem_map_of_mem hf)
    · exact hnew.2 f hf hold

/-- **The table of a list of entries under distinct names has these entries.** -/
theorem perm_ofList {es : List (String × α)} (hnodup : (es.map (·.1)).Nodup) :
    (ofList es).entries.Perm es := by
  have hall := perm_foldl_insert (t := empty) hnodup fun _ _ => List.not_mem_nil
  rwa [show (empty : Table α).entries = [] from rfl, List.append_nil] at hall

/-- A list of entries under distinct names has under each name the value that stands there. -/
theorem lookup_of_mem {es : List (String × α)} (hnodup : (es.map (·.1)).Nodup) {name : String}
    {value : α} (hmem : (name, value) ∈ es) : lookup name es = some value := by
  induction es with
  | nil => cases hmem
  | cons e es ih =>
    rw [List.map_cons, List.nodup_cons] at hnodup
    rcases List.mem_cons.mp hmem with rfl | hmem
    · exact if_pos rfl
    · have hother : e.1 ≠ name := fun heq => hnodup.1 (heq ▸ List.mem_map_of_mem hmem)
      exact (if_neg hother).trans (ih hnodup.2 hmem)

/-- What stands under a name is an entry. -/
theorem mem_of_lookup {es : List (String × α)} {name : String} {value : α}
    (h : lookup name es = some value) : (name, value) ∈ es := by
  induction es with
  | nil => cases h
  | cons e es ih =>
    unfold lookup at h
    split at h
    · next hname =>
      cases h
      rw [← hname]
      exact List.mem_cons_self
    · exact List.mem_cons_of_mem e (ih h)

/-- **The table of a list of entries under distinct names answers with these entries.** -/
theorem get?_ofList_of_mem {es : List (String × α)} (hnodup : (es.map (·.1)).Nodup) {name : String}
    {value : α} (hmem : (name, value) ∈ es) : (ofList es).get? name = some value := by
  have hperm := perm_ofList hnodup
  exact lookup_of_mem ((hperm.map (·.1)).nodup_iff.mpr hnodup) (hperm.mem_iff.mpr hmem)

/-- **A table answers with what was last put under a name.** -/
@[simp]
theorem get?_insert (t : Table α) (name other : String) (value : α) :
    (t.insert name value).get? other = if name = other then some value else t.get? other :=
  lookup_put name other value t.entries

/-- **A table has nothing under a name that was erased.** -/
@[simp]
theorem get?_erase (t : Table α) (name other : String) :
    (t.erase name).get? other = if name = other then none else t.get? other :=
  lookup_filter_ne name other t.entries

/-! ## Order -/

/-- Whether the entries stand in ascending order of distinct names. -/
def Sorted (t : Table α) : Prop := t.entries.Pairwise fun d e => d.1 < e.1

theorem sorted_empty : (empty : Table α).Sorted := List.Pairwise.nil

/-- An entry that comes to stand in a list is the new one or has been there. -/
theorem mem_of_mem_put {name : String} {value : α} {es : List (String × α)} {e : String × α}
    (he : e ∈ put name value es) : e = (name, value) ∨ e ∈ es := by
  induction es with
  | nil => exact .inl (List.mem_singleton.mp he)
  | cons d ds ih =>
    unfold put at he
    split at he
    · exact (List.mem_cons.mp he).imp id (List.mem_cons_of_mem d)
    · split at he
      · exact List.mem_cons.mp he
      · rcases List.mem_cons.mp he with rfl | he
        · exact .inr List.mem_cons_self
        · exact (ih he).imp id (List.mem_cons_of_mem d)

/-- A list stays in order when a value is put. -/
theorem pairwise_put {es : List (String × α)} (hes : es.Pairwise fun d e => d.1 < e.1)
    (name : String) (value : α) : (put name value es).Pairwise fun d e => d.1 < e.1 := by
  induction es with
  | nil => exact List.pairwise_singleton _ _
  | cons e es ih =>
    obtain ⟨hhead, htail⟩ := List.pairwise_cons.mp hes
    unfold put
    split
    · next hname => exact List.pairwise_cons.mpr ⟨fun d hd => hname ▸ hhead d hd, htail⟩
    · next hname =>
      split
      · next hlt =>
        refine List.pairwise_cons.mpr ⟨List.forall_mem_cons.mpr ⟨hlt, fun d hd => ?_⟩, hes⟩
        exact String.lt_trans hlt (hhead d hd)
      · next hlt =>
        -- the name is neither that of the first entry nor before it
        have hgt : e.1 < name := String.not_le.mp fun hle =>
          hname (String.le_antisymm hle (String.not_lt.mp hlt))
        refine List.pairwise_cons.mpr ⟨fun d hd => ?_, ih htail⟩
        rcases mem_of_mem_put hd with rfl | hd
        · exact hgt
        · exact hhead d hd

/-- **A table stays in order.** -/
theorem Sorted.insert {t : Table α} (h : t.Sorted) (name : String) (value : α) :
    (t.insert name value).Sorted :=
  pairwise_put h name value

/-- **A table in order has the entries with which it answers.** -/
theorem Sorted.mem_entries_iff {t : Table α} (h : t.Sorted) {name : String} {value : α} :
    (name, value) ∈ t.entries ↔ t.get? name = some value := by
  have hnodup : (t.entries.map (·.1)).Nodup :=
    List.pairwise_map.mpr (h.imp fun hlt => String.ne_of_lt hlt)
  exact ⟨lookup_of_mem hnodup, mem_of_lookup⟩

/-- A name that stands nowhere in a list has no value there. -/
theorem lookup_eq_none {name : String} {es : List (String × α)} (h : ∀ e ∈ es, e.1 ≠ name) :
    lookup name es = none := by
  induction es with
  | nil => rfl
  | cons e es ih =>
    obtain ⟨he, hes⟩ := List.forall_mem_cons.mp h
    exact (if_neg he).trans (ih hes)

/-- A list in order has nothing under a name before its first one. -/
theorem lookup_of_lt {name : String} {e : String × α} {es : List (String × α)}
    (hname : name < e.1) (hes : ∀ d ∈ es, e.1 < d.1) : lookup name (e :: es) = none := by
  refine lookup_eq_none (List.forall_mem_cons.mpr ⟨fun heq => ?_, fun d hd heq => ?_⟩)
  · exact String.lt_irrefl name (heq ▸ hname)
  · exact String.lt_asymm hname (heq ▸ hes d hd)

/-- Lists in order that answer alike are the same list. -/
theorem eq_of_lookup_eq {es ds : List (String × α)} (hes : es.Pairwise fun d e => d.1 < e.1)
    (hds : ds.Pairwise fun d e => d.1 < e.1) (h : ∀ name, lookup name es = lookup name ds) :
    es = ds := by
  have hfirst (e : String × α) (es : List (String × α)) : lookup e.1 (e :: es) = some e.2 :=
    if_pos rfl
  induction es generalizing ds with
  | nil =>
    cases ds with
    | nil => rfl
    | cons d ds => cases (h d.1).trans (hfirst d ds)
  | cons e es ih =>
    cases ds with
    | nil => cases (hfirst e es).symm.trans (h e.1)
    | cons d ds =>
      obtain ⟨hbehind, hes⟩ := List.pairwise_cons.mp hes
      obtain ⟨hbehind', hds⟩ := List.pairwise_cons.mp hds
      have hname : e.1 = d.1 := by
        refine String.le_antisymm (String.not_lt.mp fun hlt => ?_) (String.not_lt.mp fun hlt => ?_)
        · cases ((hfirst d ds).symm.trans (h d.1).symm).trans (lookup_of_lt hlt hbehind)
        · cases ((hfirst e es).symm.trans (h e.1)).trans (lookup_of_lt hlt hbehind')
      have hvalue : e.2 = d.2 := by
        have heq := h e.1
        rw [hfirst e es, hname, hfirst d ds] at heq
        exact Option.some.inj heq
      have hrest : es = ds := ih hes hds fun name => by
        by_cases heq : e.1 = name
        · subst heq
          rw [lookup_eq_none fun f hf => Ne.symm (String.ne_of_lt (hbehind f hf)),
            lookup_eq_none fun f hf => Ne.symm (String.ne_of_lt (hname ▸ hbehind' f hf))]
        · have hsame := h name
          unfold lookup at hsame
          rwa [if_neg heq, if_neg (hname ▸ heq)] at hsame
      rw [Prod.ext hname hvalue, hrest]

/-- **Tables in order that answer alike are the same table.** -/
theorem Sorted.ext {t u : Table α} (ht : t.Sorted) (hu : u.Sorted)
    (h : ∀ name, t.get? name = u.get? name) : t = u :=
  congrArg mk (eq_of_lookup_eq ht hu h)

end Table

end ClusterScaling
