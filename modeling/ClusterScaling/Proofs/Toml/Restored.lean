import ClusterScaling.Proofs.Document.Decoding
import ClusterScaling.Proofs.Duration.Saved
import ClusterScaling.Settings
import ClusterScaling.Toml.Reader
import ClusterScaling.Toml.Writer

/-!
# What comes back from TOML

A document that is written as TOML and read again is not the same
document. TOML has no word for nothing, so a field that holds nothing is
not written, and tables come after values, so that fields change their
places. `restoredAs d d'` says that `d'` is `d` up to this, and
`Survives d` that the text of `d` is read as such a document. Nothing
here proves that documents survive; a concrete one is decided to.

What matters is what values are read from the document that comes back,
and this depends on the type. `Recovers read write kept` says that a
value is read as itself exactly if it is `kept`. A text, a number or a
flag always is, a duration only if its text is exact, and a list or a
record if its parts are. The equivalence is what makes it compose: from
an implication in either direction alone, nothing would follow for a
record whose other fields may be read as other values.
-/

namespace ClusterScaling

open Document

namespace Toml

/-! ## Documents -/

mutual

/-- Whether a document is what TOML makes of another one: scalars and sequences are the same, and a
table has the same entries in any order, without those that hold nothing. -/
def restoredAs : Document → Document → Bool
  | .flag a, .flag b => a == b
  | .integer a, .integer b => a == b
  | .real x, .real y => decide (x = y)
  | .text a, .text b => a == b
  | .moment a, .moment b => a == b
  | .sequence xs, .sequence ys => itemsRestoredAs xs ys
  | .mapping es, .mapping fs =>
    decide (fs.map (·.1)).Nodup && fs.all (fun f => (es.map (·.1)).contains f.1) &&
      entriesRestoredAs es fs
  | _, _ => false

/-- Whether items are what TOML makes of others, one by one. -/
def itemsRestoredAs : List Document → List Document → Bool
  | [], [] => true
  | x :: xs, y :: ys => restoredAs x y && itemsRestoredAs xs ys
  | _, _ => false

/-- Whether each of some entries is found among others as TOML makes it, or is not written. -/
def entriesRestoredAs : List (String × Document) → List (String × Document) → Bool
  | [], _ => true
  | (name, d) :: es, fs =>
    (match Table.lookup name fs with
      | some d' => restoredAs d d'
      | none => !isWritten d) && entriesRestoredAs es fs

end

/-- What is read from the text of a document. Texts are slow to take apart, so this goes from the
characters that are written straight to those that are read. -/
def reread? (d : Document) : Option Document :=
  let cs := match joined ['\n'] ((sections [] false d).map Section.form) with
    | c :: cs => if c.toNat = 0xFEFF then cs else c :: cs
    | [] => []
  (statements? (cs.length + 1) cs []).bind ofStatements?

theorem read?_write (d : Document) : read? (write d) = reread? d := by
  unfold read? write
  rw [String.toList_ofList]
  rfl

/-- A document that comes back as itself when it is written and read. -/
def Survives (d : Document) : Prop := ∃ d', read? (write d) = some d' ∧ restoredAs d d' = true

instance (d : Document) : Decidable (Survives d) :=
  decidable_of_iff ((reread? d).any (restoredAs d) = true) (read?_write d ▸ Option.any_eq_true ..)

/-! ## Records -/

variable {α : Type}

/-- Nothing comes back as a document that holds nothing. -/
theorem restoredAs_null (d : Document) : restoredAs d .null = false := by
  cases d <;> rfl

/-- A record that comes back has its fields, and no others. -/
theorem exists_ofDocument {es : List (String × Document)} {d : Document}
    (h : restoredAs (.mapping es) d = true) :
    ∃ fs, (∀ names, es.map (·.1) = names → Record.ofDocument names d = pure ⟨fs, false⟩)
      ∧ entriesRestoredAs es fs = true := by
  cases d with
  | mapping fs =>
    obtain ⟨⟨hnodup, hnames⟩, hentries⟩ :
        ((fs.map (·.1)).Nodup ∧ ∀ f ∈ fs, f.1 ∈ es.map (·.1)) ∧ entriesRestoredAs es fs = true := by
      simpa only [restoredAs, Bool.and_eq_true, decide_eq_true_eq, List.all_eq_true,
        List.contains_iff_mem] using h
    refine ⟨fs, ?_, hentries⟩
    rintro _ rfl
    exact Record.ofDocument_mapping hnodup hnames
  | _ => cases h

/-- **Values come back if they are kept**: they are written, and what comes back is read as the
value exactly then. -/
structure Recovers (read : Document → Decoded α) (write : α → Document) (kept : α → Prop) :
    Prop where
  /-- Every value is written. -/
  written : ∀ a, isWritten (write a) = true
  /-- What comes back is read as the value exactly if the value is kept. -/
  reads : ∀ {a d manner}, restoredAs (write a) d = true → (read d manner = .ok a ↔ kept a)

section

variable {read : Document → Decoded α} {write : α → Document} {kept : α → Prop} {name : String}
  {es fs : List (String × Document)}

/-- The first of some entries is found if it is written, and so are the others. -/
theorem exists_lookup {d : Document} (h : entriesRestoredAs ((name, d) :: es) fs = true) :
    (isWritten d = true → ∃ d', Table.lookup name fs = some d' ∧ restoredAs d d' = true)
      ∧ (d = .null → Table.lookup name fs = none) ∧ entriesRestoredAs es fs = true := by
  obtain ⟨hfirst, hes⟩ := (Bool.and_eq_true ..).mp h
  cases hlookup : Table.lookup name fs with
  | none =>
    rw [hlookup] at hfirst
    refine ⟨fun hd => ?_, fun _ => rfl, hes⟩
    rw [hd] at hfirst
    cases hfirst
  | some d' =>
    rw [hlookup] at hfirst
    refine ⟨fun _ => ⟨d', rfl, hfirst⟩, ?_, hes⟩
    rintro rfl
    cases hfirst

/-- **A field is read from what comes back of its value.** The lemma takes one field off the front,
so that a record applies it once for each field, in the order of the fields. -/
theorem Recovers.exists_field (h : Recovers read write kept) {a : α}
    (hfields : entriesRestoredAs ((name, write a) :: es) fs = true) :
    ∃ x : Decoded α, Record.read ⟨fs, false⟩ name read = some <$> x
      ∧ (∀ {manner}, x manner = .ok a ↔ kept a) ∧ entriesRestoredAs es fs = true := by
  obtain ⟨hwritten, -, hes⟩ := exists_lookup hfields
  obtain ⟨d, hlookup, hd⟩ := hwritten (h.written a)
  refine ⟨read d, ?_, h.reads hd, hes⟩
  unfold Record.read
  dsimp only
  rw [hlookup]

/-- A field that may be left out is read from what comes back of its value, if there is one. -/
theorem Recovers.exists_option (h : Recovers read write kept) {o : Option α}
    (hfields : entriesRestoredAs ((name, ofOption write o) :: es) fs = true) :
    ∃ x : Decoded (Option α), Record.read ⟨fs, false⟩ name (asOption read) = Option.map some <$> x
      ∧ (∀ {manner}, x manner = .ok o ↔ ∀ a ∈ o, kept a) ∧ entriesRestoredAs es fs = true := by
  obtain ⟨hwritten, hnull, hes⟩ := exists_lookup hfields
  cases o with
  | none =>
    refine ⟨pure none, ?_, fun {_} => ⟨fun _ _ ha => (nomatch ha), fun _ => rfl⟩, hes⟩
    unfold Record.read
    dsimp only
    rw [hnull rfl]
    rfl
  | some a =>
    obtain ⟨d, hlookup, hd⟩ := hwritten (h.written a)
    refine ⟨some <$> read d, ?_, fun {manner} => ?_, hes⟩
    · have hvalue : asOption read d = some <$> read d := by
        cases d with
        | null => exact absurd hd (by rw [restoredAs_null]; exact nofun)
        | _ => rfl
      unfold Record.read
      dsimp only
      rw [hlookup]
      dsimp only
      rw [hvalue, Functor.map_map, Functor.map_map]
      rfl
    · simp only [map_eq_ok, Option.some.injEq, exists_eq_right, h.reads hd]
      exact ⟨fun ha b hb => Option.some.inj hb ▸ ha, fun ha => ha a rfl⟩

end

/-! ## Scalars and sequences -/

/-- Whether a document is written as one value that has no parts. -/
def isScalar : Document → Bool
  | .flag _ | .integer _ | .real _ | .text _ | .moment _ => true
  | _ => false

theorem isWritten_of_isScalar {d : Document} (h : isScalar d = true) : isWritten d = true := by
  cases d with
  | null | unreadable | torn => cases h
  | _ => rfl

/-- A scalar comes back as it is. -/
theorem eq_of_restoredAs {d d' : Document} (hscalar : isScalar d = true)
    (h : restoredAs d d' = true) : d' = d := by
  revert hscalar h
  fun_cases restoredAs d d' with
  | case1 a b | case2 a b | case4 a b | case5 a b =>
    intro _ h
    rw [eq_of_beq h]
  | case3 x y =>
    intro _ h
    rw [of_decide_eq_true h]
  | case6 | case7 => exact nofun
  | case8 => exact fun _ => nofun

/-- Values that are written as scalars come back if they are read from them. -/
theorem recovers_of_isScalar {read : Document → Decoded α} {write : α → Document}
    (hscalar : ∀ a, isScalar (write a) = true) (hread : ∀ a, read (write a) = pure a) :
    Recovers read write fun _ => True where
  written a := isWritten_of_isScalar (hscalar a)
  reads {a d manner} h := by
    rw [eq_of_restoredAs (hscalar a) h, hread]
    exact ⟨fun _ => trivial, fun _ => rfl⟩

theorem recovers_text : Recovers asText .text fun _ => True :=
  recovers_of_isScalar (fun _ => rfl) fun _ => rfl

theorem recovers_flag : Recovers asFlag .flag fun _ => True :=
  recovers_of_isScalar (fun _ => rfl) fun _ => rfl

theorem recovers_real : Recovers asReal .real fun _ => True :=
  recovers_of_isScalar (fun _ => rfl) fun _ => rfl

theorem recovers_count : Recovers asCount ofCount fun _ => True :=
  recovers_of_isScalar (fun _ => rfl) fun n => by
    unfold asCount ofCount
    rw [asNat_natCast n.toNat_lt, map_pure, UInt32.ofNat_toNat]

theorem recovers_wide : Recovers asWide ofWide fun _ => True :=
  recovers_of_isScalar (fun _ => rfl) fun n => by
    unfold asWide ofWide
    rw [asNat_natCast n.toNat_lt, map_pure, UInt64.ofNat_toNat]

/-- The variants of an enumeration come back if they are told apart by their names. -/
theorem recovers_variant {all : List α} {name : α → String}
    (hall : ∀ a, all.find? (fun b => name b = name a) = some a) :
    Recovers (asVariant all name) (fun a => .text (name a)) fun _ => True :=
  recovers_of_isScalar (fun _ => rfl) fun a => by
    unfold asVariant named
    dsimp only
    rw [hall a]

/-- A duration comes back if its text is exact. -/
theorem recovers_duration : Recovers asDuration ofDuration Duration.Kept where
  written _ := rfl
  reads {t d manner} h := by
    rw [eq_of_restoredAs (show isScalar (ofDuration t) = true from rfl) h]
    unfold asDuration ofDuration Duration.Kept asText
    rw [pure_bind]
    cases Duration.ofText? t.canonical with
    | none => exact ⟨nofun, nofun⟩
    | some t' =>
      exact ⟨fun h => congrArg some (Except.ok.inj h),
        fun h => congrArg Except.ok (Option.some.inj h)⟩

/-- A sequence comes back if its items do. -/
theorem Recovers.list {read : Document → Decoded α} {write : α → Document} {kept : α → Prop}
    (h : Recovers read write kept) :
    Recovers (asList read) (ofList write) fun as => ∀ a ∈ as, kept a where
  written _ := rfl
  reads {as d manner} hd := by
    cases d with
    | sequence ds =>
      show ds.mapM read manner = .ok as ↔ _
      replace hd : itemsRestoredAs (as.map write) ds = true := hd
      induction as generalizing ds with
      | nil =>
        cases ds with
        | nil => exact ⟨fun _ _ ha => absurd ha List.not_mem_nil, fun _ => rfl⟩
        | cons d ds => cases hd
      | cons a as ih =>
        cases ds with
        | nil => cases hd
        | cons d ds =>
          obtain ⟨hfirst, hrest⟩ := (Bool.and_eq_true ..).mp hd
          rw [List.mapM_cons, bind_eq_ok, List.forall_mem_cons]
          constructor
          · rintro ⟨a', ha', hread⟩
            obtain ⟨as', has', hcons⟩ := bind_eq_ok.mp hread
            cases hcons
            exact ⟨(h.reads hfirst).mp ha', (ih ds hrest).mp has'⟩
          · rintro ⟨ha, has⟩
            exact ⟨a, (h.reads hfirst).mpr ha,
              bind_eq_ok.mpr ⟨as, (ih ds hrest).mpr has, rfl⟩⟩
    | _ => cases hd

end Toml

end ClusterScaling
