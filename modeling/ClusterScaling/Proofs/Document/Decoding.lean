import ClusterScaling.Document

/-!
# Taking decodings apart

A decoding is a function of the manner in which documents are read, and
fails at its first failure. So one that is made of parts succeeds exactly
if its parts do, and these are the lemmas that say so part by part:
for `>>=`, for `<$>`, for the items of a list, and for the fields of a
record.
-/

namespace ClusterScaling

namespace Document

variable {α β : Type} {manner : Manner}

/-- A decoding in two parts succeeds if both parts do. -/
theorem bind_eq_ok {x : Decoded α} {f : α → Decoded β} {b : β} :
    (x >>= f) manner = .ok b ↔ ∃ a, x manner = .ok a ∧ f a manner = .ok b := by
  have hbind : (x >>= f) manner = (x manner >>= fun a => f a manner) := rfl
  rw [hbind]
  cases x manner with
  | error cause => exact ⟨nofun, fun ⟨_, h, _⟩ => nomatch h⟩
  | ok a => exact ⟨fun h => ⟨a, rfl, h⟩, fun ⟨_, h, h'⟩ => (Except.ok.inj h) ▸ h'⟩

/-- What is made of a decoded value is there if the value is. -/
theorem map_eq_ok {x : Decoded α} {f : α → β} {b : β} :
    (f <$> x) manner = .ok b ↔ ∃ a, x manner = .ok a ∧ f a = b := by
  rw [map_eq_pure_bind, bind_eq_ok]
  exact exists_congr fun a => and_congr_right fun _ =>
    ⟨fun h => Except.ok.inj h, fun h => congrArg Except.ok h⟩

/-- Each value in a decoded list was decoded from one of the items. -/
theorem of_mem_mapM {item : α → Decoded β} {as : List α} {bs : List β}
    (h : as.mapM item manner = .ok bs) {b : β} (hb : b ∈ bs) :
    ∃ a ∈ as, item a manner = .ok b := by
  induction as generalizing bs with
  | nil =>
    cases h
    cases hb
  | cons a as ih =>
    rw [List.mapM_cons] at h
    obtain ⟨b', hb', h⟩ := bind_eq_ok.mp h
    obtain ⟨bs', hbs', h⟩ := bind_eq_ok.mp h
    cases h
    rcases List.mem_cons.mp hb with rfl | hb
    · exact ⟨a, List.mem_cons_self, hb'⟩
    · obtain ⟨a', ha', hitem⟩ := ih hbs' hb
      exact ⟨a', List.mem_cons_of_mem a ha', hitem⟩

/-- A natural number within the bound is decoded as it is. -/
theorem asNat_natCast {n bound : Nat} (hlt : n < bound) : asNat bound (.integer n) = pure n := by
  unfold asNat
  dsimp only
  rw [if_pos ⟨Int.natCast_nonneg n, hlt⟩]
  rfl

end Document

namespace Record

/-- Names of which none is written twice. -/
theorem repeated?_eq_none {ns : List String} (h : ns.Nodup) : repeated? ns = none := by
  induction ns with
  | nil => rfl
  | cons n ns ih =>
    obtain ⟨hn, hns⟩ := List.nodup_cons.mp h
    exact (if_neg hn).trans (ih hns)

@[simp]
theorem required_some {α : Type} (r : Record) (name : String) (a : α) :
    r.required name (some a) = pure a := rfl

/-- A mapping with no other names than the known ones, and none of them twice, is the record. -/
theorem ofDocument_mapping {names : List String} {fs : List (String × Document)}
    (hnodup : (fs.map (·.1)).Nodup) (hnames : ∀ f ∈ fs, f.1 ∈ names) :
    ofDocument names (.mapping fs) = pure ⟨fs, false⟩ := by
  have hknown : fs.filter (fun f => f.1 ∈ names) = fs :=
    List.filter_eq_self.mpr fun f hf => decide_eq_true (hnames f hf)
  unfold ofDocument
  dsimp only
  rw [hknown, repeated?_eq_none hnodup]

end Record

end ClusterScaling
