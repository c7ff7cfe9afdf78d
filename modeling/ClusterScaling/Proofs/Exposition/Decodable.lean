import Mathlib.Data.List.Basic
import Mathlib.Data.List.Induction
import ClusterScaling.Proofs.Decimal.Written
import ClusterScaling.Proofs.Exposition.Format
import ClusterScaling.Proofs.Fleet.Figures

/-!
# What can be read back from an exposition

A recorder keeps fourteen figures of each cluster, and writes them down
with the key of the cluster as a label. `Recorder.points` is what it has to
say: for every cluster that was mentioned each of its figures, counters and
counts as they are, and confidences rounded to four decimals. A point
belongs to one cluster and one figure, so nothing is lost in points.

In writing something may be. A key is put between quotes as it stands,
without the escapes that the format asks for. So an exposition is read back
exactly if no key needs escapes (`Recorder.decodable_iff`), and then
different figures are never written in the same way. With a quote in a key
there are lines that are no samples. With the end of a line in it, they may
all be samples and speak of a cluster that was never mentioned
(`Recorder.misread`).
-/

namespace ClusterScaling.Recorder

open Decimal Exposition

/-! ## Figures -/

/-- A figure of a cluster. -/
inductive Figure where
  /-- The decisions about a tier in a direction. -/
  | event (t : Tier) (a : Action)
  /-- The verdicts about the primaries of one kind. -/
  | verdict (v : Verdict)
  /-- The last count of a tier. -/
  | replicas (t : Tier)
  /-- The last confidence about a tier. -/
  | confidence (t : Tier)
  deriving DecidableEq

namespace Figure

/-- The family of a figure. -/
def family : Figure → Family
  | event _ _ => events
  | verdict _ => verdicts
  | replicas _ => Recorder.replicas
  | confidence _ => confidences

/-- The labels of a figure behind the cluster. -/
def labels : Figure → List (String × String)
  | event t a => [("tier", t.name), ("direction", a.name)]
  | verdict v => [("outcome", v.name)]
  | replicas t => [("tier", t.name)]
  | confidence t => [("tier", t.name)]

/-- A figure as it is written. -/
def text (f : ClusterFigures) : Figure → String
  | event t a => toString ((f.tiers.get t).events.get a)
  | verdict v => toString (f.verdicts.get v)
  | replicas t => toString (f.tiers.get t).replicas.toNat
  | confidence t => fixed 4 (f.tiers.get t).confidence

/-- A figure as a number, a confidence with four decimals. -/
def value (f : ClusterFigures) : Figure → Literal
  | event t a => .finite false ((f.tiers.get t).events.get a) 0
  | verdict v => .finite false (f.verdicts.get v) 0
  | replicas t => .finite false (f.tiers.get t).replicas.toNat 0
  | confidence t => rounded 4 (f.tiers.get t).confidence

/-- What a recorder says about a figure of a cluster. -/
def point (g : Figure) (cluster : String) (f : ClusterFigures) : Point :=
  ⟨g.family.name, ("cluster", cluster) :: g.labels, g.value f⟩

/-- The figures by families, in the order in which they are written. -/
def rows : List (Family × List Figure) :=
  [(events, Tier.all.flatMap fun t => Action.all.map (event t)),
    (verdicts, Verdict.all.map verdict), (Recorder.replicas, Tier.all.map replicas),
    (confidences, Tier.all.map confidence)]

/-- A family consists of its figures. -/
theorem samples_eq {row : Family × List Figure} (hrow : row ∈ rows) (f : ClusterFigures) :
    row.1.samples f = row.2.map fun g => (g.labels, g.text f) := by
  simp only [rows, List.mem_cons, List.not_mem_nil, or_false] at hrow
  rcases hrow with rfl | rfl | rfl | rfl <;> rfl

/-- Figures are written under their families. -/
theorem family_of_mem : ∀ row ∈ rows, ∀ g ∈ row.2, g.family.name = row.1.name := by
  decide

/-- The fourteen figures. -/
def all : List Figure := rows.flatMap (·.2)

/-- Each figure is written. -/
theorem mem_all (g : Figure) : g ∈ all := by
  cases g with
  | event t a => cases t <;> cases a <;> decide
  | verdict v => cases v <;> decide
  | replicas t => cases t <;> decide
  | confidence t => cases t <;> decide

/-- **A figure is known from its family and its labels.** -/
theorem ext {g g' : Figure} (hname : g.family.name = g'.family.name)
    (hlabels : g.labels = g'.labels) : g = g' := by
  have hall : ∀ g ∈ all, ∀ g' ∈ all,
      g.family.name = g'.family.name → g.labels = g'.labels → g = g' := by
    decide +kernel
  exact hall g g.mem_all g' g'.mem_all hname hlabels

/-- **A figure is read as it is written.** -/
theorem ofText?_text (f : ClusterFigures) (g : Figure) :
    Literal.ofText? (g.text f).toList = some (g.value f) := by
  have hcount (n : Nat) : Literal.ofText? (toString n).toList = some (.finite false n 0) := by
    rw [Nat.toString_eq_ofList_toDigits, String.toList_ofList, Literal.ofText?_toDigits]
  cases g with
  | event t a => exact hcount _
  | verdict v => exact hcount _
  | replicas t => exact hcount _
  | confidence t => exact Literal.ofText?_fixed (by decide) _

/-- A figure is written as one word. -/
theorem isWordChar_of_mem_text (f : ClusterFigures) (g : Figure) :
    ∀ c ∈ (g.text f).toList, isWordChar c = true := by
  have hcount (n : Nat) : ∀ c ∈ (toString n).toList, isWordChar c = true := by
    intro c hc
    rw [Nat.toString_eq_ofList_toDigits, String.toList_ofList] at hc
    refine isWordChar_of_isAlphanum ?_
    rw [Char.isAlphanum, Nat.isDigit_of_mem_toDigits (by decide) (by decide) hc, Bool.or_true]
  cases g with
  | event t a => exact hcount _
  | verdict v => exact hcount _
  | replicas t => exact hcount _
  | confidence t =>
    intro c hc
    rcases mem_fixed (by decide) hc with halnum | rfl | rfl
    · exact isWordChar_of_isAlphanum halnum
    · rfl
    · rfl

theorem isMetricName_family (g : Figure) : isMetricName g.family.name.toList = true := by
  have hall : ∀ g ∈ all, isMetricName g.family.name.toList = true := by decide +kernel
  exact hall g g.mem_all

theorem isLabel_of_mem {g : Figure} {l : String × String} (hl : l ∈ g.labels) : IsLabel l := by
  have hall : ∀ g ∈ all, ∀ l ∈ g.labels, IsLabel l := by decide +kernel
  exact hall g g.mem_all l hl

/-- The labels of a figure and that of its cluster are different ones. -/
theorem nodup_labels (g : Figure) : ("cluster" :: g.labels.map Prod.fst).Nodup := by
  cases g <;> simp [labels]

end Figure

/-- All that a recorder has to say, in the order in which it is written. -/
def points (r : Recorder) : List Point :=
  Figure.rows.flatMap fun row => r.clusters.entries.flatMap fun c =>
    row.2.map fun g => g.point c.1 c.2

/-! ## Reading what is written -/

/-- A sample is written without escapes. -/
theorem Sample.toList_line (s : Sample) :
    s.line.toList = sampleText s.name s.labels s.value.toList ++ ['\n'] := by
  unfold Sample.line sampleText
  have hlabels : (s.labels.map fun l => l.1 ++ "=\"" ++ l.2 ++ "\"").map String.toList
      = s.labels.map labelText := by
    rw [List.map_map]
    refine List.map_congr_left fun l _ => ?_
    simp [labelText]
  simp only [String.toList_append, String.toList_intercalate, hlabels]
  simp

/-- A figure of a cluster on a line. -/
def figureLine (cluster : String) (f : ClusterFigures) (g : Figure) : List Char :=
  sampleText g.family.name (("cluster", cluster) :: g.labels) (g.text f).toList ++ ['\n']

/-- The labels of a sample can be read if the key of the cluster needs no escapes. -/
theorem isLabel_of_plain {cluster : String} (hcluster : IsPlain cluster) (g : Figure) :
    ∀ l ∈ ("cluster", cluster) :: g.labels, IsLabel l :=
  List.forall_mem_cons.mpr ⟨⟨(by decide : isLabelName "cluster".toList = true), hcluster⟩,
    fun _ => Figure.isLabel_of_mem⟩

/-- **The line of a figure says its point**, if the key of the cluster needs no escapes. -/
theorem reads_figureLine {cluster : String} (hcluster : IsPlain cluster) (f : ClusterFigures)
    (g : Figure) : Reads (figureLine cluster f g) [g.point cluster f] :=
  reads_sampleText g.isMetricName_family (isLabel_of_plain hcluster g) g.nodup_labels
    (g.isWordChar_of_mem_text f) (g.ofText?_text f)

/-- The help and the type of a family, each behind the mark of a comment. -/
def headWords (family : Family) : List (List Char) :=
  [" HELP ".toList ++ family.name.toList ++ ' ' :: family.help.toList,
    " TYPE ".toList ++ family.name.toList ++ ' ' :: family.kind.toList]

/-- The comments in front of the samples of a family. -/
def headLines (family : Family) : List Char :=
  (headWords family).flatMap fun words => '#' :: (words ++ ['\n'])

/-- The head of a family says nothing. -/
theorem reads_headLines {row : Family × List Figure} (hrow : row ∈ Figure.rows) :
    Reads (headLines row.1) [] := by
  have hwords : ∀ row ∈ Figure.rows, ∀ words ∈ headWords row.1, '\n' ∉ words := by decide +kernel
  have hnothing : ((headWords row.1).flatMap fun _ => ([] : List Point)) = [] := rfl
  rw [← hnothing]
  exact reads_flatMap fun words hmem => reads_comment (hwords row hrow words hmem)

/-- The lines of a family. -/
theorem toList_renderFamily {row : Family × List Figure} (hrow : row ∈ Figure.rows)
    (r : Recorder) : (row.1.render r).toList = headLines row.1
      ++ r.clusters.entries.flatMap fun c => row.2.flatMap fun g => figureLine c.1 c.2 g := by
  have hhead : ("# HELP " ++ row.1.name ++ " " ++ row.1.help ++ "\n" ++ "# TYPE " ++ row.1.name
      ++ " " ++ row.1.kind ++ "\n").toList = headLines row.1 := by
    simp [headLines, headWords]
  unfold Family.render
  rw [String.toList_append, hhead, String.toList_join, List.flatMap_assoc]
  refine congrArg _ (List.flatMap_congr fun c _ => ?_)
  rw [Figure.samples_eq hrow, List.map_map, List.flatMap_map]
  refine List.flatMap_congr fun g hg => ?_
  rw [figureLine, Figure.family_of_mem row hrow g hg]
  exact Sample.toList_line _

/-- **A recorder is written row by row.** -/
theorem toList_render (r : Recorder) : r.render.toList = Figure.rows.flatMap fun row =>
    headLines row.1 ++ r.clusters.entries.flatMap fun c =>
      row.2.flatMap fun g => figureLine c.1 c.2 g := by
  have hrows : r.render = String.join (Figure.rows.map fun row => row.1.render r) := rfl
  rw [hrows, String.toList_join, List.flatMap_map]
  exact List.flatMap_congr fun row hrow => toList_renderFamily hrow r

/-- **Keys that need no escapes are read back**, with all figures. -/
theorem read?_render {r : Recorder} (hplain : ∀ c ∈ r.clusters.entries, IsPlain c.1) :
    read? r.render = some r.points := by
  have hreads : Reads r.render.toList r.points := by
    rw [toList_render]
    refine reads_flatMap fun row hrow => ?_
    rw [← List.nil_append (List.flatMap _ _)]
    refine (reads_headLines hrow).append (reads_flatMap fun c hc => ?_)
    rw [List.map_eq_flatMap]
    exact reads_flatMap fun g _ => reads_figureLine (hplain c hc) c.2 g
  exact hreads.points?

/-- A line has the key of its cluster between quotes, and what stands around it does not depend on
the key. -/
theorem exists_figureLine (f : ClusterFigures) (g : Figure) : ∃ tail, '\n' ∉ tail ∧
    ∀ cluster : String, figureLine cluster f g = g.family.name.toList ++ '\x7b' ::
      ("cluster".toList ++ '=' :: '"' :: (cluster.toList ++ '"' :: (tail ++ ['\n']))) := by
  have hfirst (xs : List (List Char)) : ∃ tail, ∀ x, [','].intercalate (x :: xs) = x ++ tail := by
    cases xs with
    | nil => exact ⟨[], fun x => by rw [List.intercalate_singleton, List.append_nil]⟩
    | cons y ys => exact ⟨_, fun x => by rw [List.intercalate_cons_cons, List.append_assoc]⟩
  obtain ⟨tail, htail⟩ := hfirst (g.labels.map labelText)
  have hline (cluster : String) : sampleText g.family.name (("cluster", cluster) :: g.labels)
      (g.text f).toList = g.family.name.toList ++ '\x7b' :: ("cluster".toList ++ '=' :: '"' ::
        (cluster.toList ++ '"' :: (tail ++ '\x7d' :: ' ' :: (g.text f).toList))) := by
    rw [sampleText, List.map_cons, htail]
    simp [labelText]
  refine ⟨tail ++ '\x7d' :: ' ' :: (g.text f).toList, fun hmem => ?_, fun cluster => ?_⟩
  · -- with an empty key there is no end of a line before the end of the line
    have hempty : IsPlain "" := by decide
    have hnone := not_mem_sampleText g.isMetricName_family (isLabel_of_plain hempty g)
      (g.isWordChar_of_mem_text f)
    rw [hline] at hnone
    exact hnone (by simp [hmem])
  · rw [figureLine, hline]
    simp

/-- The first of the keys that need escapes. -/
theorem exists_first_not_plain {entries : List (String × ClusterFigures)}
    (h : ¬ ∀ c ∈ entries, IsPlain c.1) : ∃ before c behind,
      entries = before ++ c :: behind ∧ (∀ d ∈ before, IsPlain d.1) ∧ ¬ IsPlain c.1 := by
  cases hfind : entries.find? fun c => decide (¬ IsPlain c.1) with
  | none =>
    refine absurd (fun c hc => ?_) h
    simpa using List.find?_eq_none.mp hfind c hc
  | some c =>
    obtain ⟨hc, before, behind, hentries, hbefore⟩ := List.find?_eq_some_iff_append.mp hfind
    exact ⟨before, c, behind, hentries, fun d hd => by simpa using hbefore d hd,
      of_decide_eq_true hc⟩

/-- **A key that needs escapes is not read back.** What stands before the first of them is read, and
then its sample is not. -/
theorem read?_render_ne {r : Recorder} (hplain : ¬ ∀ c ∈ r.clusters.entries, IsPlain c.1) :
    read? r.render ≠ some r.points := by
  obtain ⟨g, gs, rows, hrows⟩ : ∃ g gs rows, Figure.rows = (events, g :: gs) :: rows :=
    ⟨_, _, _, rfl⟩
  have hrow : (events, g :: gs) ∈ Figure.rows := hrows ▸ List.mem_cons_self
  obtain ⟨before, c, behind, hentries, hbefore, hc⟩ := exists_first_not_plain hplain
  let lines (c : String × ClusterFigures) := (g :: gs).flatMap fun g => figureLine c.1 c.2 g
  let spoken (c : String × ClusterFigures) := (g :: gs).map fun g => g.point c.1 c.2
  have hread : Reads (headLines events ++ before.flatMap lines) (before.flatMap spoken) := by
    rw [← List.nil_append (before.flatMap spoken)]
    refine (reads_headLines hrow).append (reads_flatMap fun d hd => ?_)
    show Reads _ ((g :: gs).map _)
    rw [List.map_eq_flatMap]
    exact reads_flatMap fun g _ => reads_figureLine (hbefore d hd) d.2 g
  obtain ⟨rest, hrender⟩ : ∃ rest, r.render.toList
      = (headLines events ++ before.flatMap lines) ++ (figureLine c.1 c.2 g ++ rest) := by
    rw [toList_render, hrows, List.flatMap_cons, hentries]
    simp only [List.flatMap_append, List.flatMap_cons, List.append_assoc, lines]
    exact ⟨_, rfl⟩
  obtain ⟨others, hpoints⟩ : ∃ others,
      r.points = before.flatMap spoken ++ g.point c.1 c.2 :: others := by
    rw [points, hrows, List.flatMap_cons, hentries]
    simp only [List.flatMap_append, List.flatMap_cons, List.map_cons, List.append_assoc,
      List.cons_append, spoken]
    exact ⟨_, rfl⟩
  intro h
  rw [Exposition.read?, hrender, hread, hpoints] at h
  obtain ⟨ps, hps, heq⟩ := Option.map_eq_some_iff.mp h
  obtain ⟨tail, -, htail⟩ := exists_figureLine c.2 g
  rw [htail, List.append_cancel_left heq] at hps
  refine points?_ne_of_not_plain g.isMetricName_family (by decide) hc (tail ++ ['\n'] ++ rest)
    (show (g.point c.1 c.2).labels.head? = some ("cluster", c.1) from rfl) others ?_
  simpa using hps

/-! ## What points tell apart -/

/-- **The points are the figures of the clusters that were mentioned**, and nothing else. -/
theorem mem_points_iff {r : Recorder} (hsorted : r.Sorted) {p : Point} : p ∈ r.points
    ↔ ∃ key f g, r.clusters.get? key = some f ∧ p = Figure.point g key f := by
  unfold points
  constructor
  · intro hp
    obtain ⟨row, hrow, hp⟩ := List.mem_flatMap.mp hp
    obtain ⟨c, hc, hp⟩ := List.mem_flatMap.mp hp
    obtain ⟨g, -, rfl⟩ := List.mem_map.mp hp
    exact ⟨c.1, c.2, g, hsorted.mem_entries_iff.mp hc, rfl⟩
  · rintro ⟨key, f, g, hget, rfl⟩
    obtain ⟨row, hrow, hg⟩ := List.mem_flatMap.mp g.mem_all
    exact List.mem_flatMap.mpr ⟨row, hrow, List.mem_flatMap.mpr
      ⟨(key, f), hsorted.mem_entries_iff.mpr hget, List.mem_map_of_mem hg⟩⟩

/-- **Points tell recorders apart**, as far as figures are written. -/
theorem value_eq_of_points {r r' : Recorder} (hsorted : r.Sorted) (hsorted' : r'.Sorted)
    (h : r.points = r'.points) (key : String) (g : Figure) :
    (r.clusters.get? key).map (Figure.value · g)
      = (r'.clusters.get? key).map (Figure.value · g) := by
  have hsame {r r' : Recorder} (hsorted : r.Sorted) (hsorted' : r'.Sorted)
      (h : r.points = r'.points) {f : ClusterFigures} (hf : r.clusters.get? key = some f) :
      ∃ f', r'.clusters.get? key = some f' ∧ g.value f = g.value f' := by
    have hmem : g.point key f ∈ r'.points := h ▸ (mem_points_iff hsorted).mpr ⟨key, f, g, hf, rfl⟩
    obtain ⟨key', f', g', hf', heq⟩ := (mem_points_iff hsorted').mp hmem
    injection heq with hname hlabels hvalue
    injection hlabels with hcluster hlabels
    obtain rfl := (Prod.mk.inj hcluster).2
    obtain rfl := Figure.ext hname hlabels
    exact ⟨f', hf', hvalue⟩
  cases hf : r.clusters.get? key with
  | some f =>
    obtain ⟨f', hf', hvalue⟩ := hsame hsorted hsorted' h hf
    rw [hf', Option.map_some, Option.map_some, hvalue]
  | none =>
    cases hf' : r'.clusters.get? key with
    | none => rfl
    | some f' =>
      obtain ⟨f, hsome, -⟩ := hsame hsorted' hsorted h.symm hf'
      cases hf.symm.trans hsome

/-! ## Calls -/

/-- What a recorder is told or asked. -/
inductive Call where
  /-- A decision about a tier of a cluster. -/
  | decision (cluster : String) (t : Tier) (a : Action) (confidence : Float)
  /-- A verdict about the primaries of a cluster. -/
  | verdict (cluster : String) (v : Verdict)
  /-- The count of replicas of a tier of a cluster. -/
  | replicas (cluster : String) (t : Tier) (n : UInt32)
  /-- A question about a figure of a cluster. -/
  | question (cluster : String)

namespace Call

/-- The cluster that a call mentions. -/
def cluster : Call → String
  | decision cluster _ _ _ => cluster
  | verdict cluster _ => cluster
  | replicas cluster _ _ => cluster
  | question cluster => cluster

/-- The recorder after a call. -/
def apply (r : Recorder) : Call → Recorder
  | decision cluster t a confidence => r.recordDecision cluster t a confidence
  | verdict cluster v => r.recordVerdict cluster v
  | replicas cluster t n => r.setReplicas cluster t n
  | question cluster => r.mention cluster

/-- What a call makes of the figures of its cluster. -/
def change : Call → ClusterFigures → ClusterFigures
  | decision _ t a confidence, f =>
    { f with tiers := f.tiers.modify t fun g =>
        { g with events := g.events.count a, confidence := unitClamp confidence } }
  | verdict _ v, f => { f with verdicts := f.verdicts.count v }
  | replicas _ t n, f => { f with tiers := f.tiers.modify t fun g => { g with replicas := n } }
  | question _, f => f

/-- A call changes the figures of its cluster. -/
theorem apply_eq_update (r : Recorder) (c : Call) : c.apply r = r.update c.cluster c.change := by
  cases c <;> rfl

end Call

/-- A recorder after calls. -/
def after (calls : List Call) : Recorder := calls.foldl Call.apply .empty

/-- What calls make of the figures of a cluster, if one of them mentions it. -/
def figuresOf (key : String) (calls : List Call) : Option ClusterFigures :=
  calls.foldl (fun f c => if c.cluster = key then some (c.change (f.getD .zero)) else f) none

theorem sorted_after (calls : List Call) : (after calls).Sorted := by
  induction calls using List.reverseRecOn with
  | nil => exact Table.sorted_empty
  | append_singleton calls c ih =>
    unfold after at ih ⊢
    rw [List.foldl_append, List.foldl_cons, List.foldl_nil, Call.apply_eq_update]
    exact ih.update _ _

/-- **The figures of a cluster are what its own calls make of them.** -/
theorem get?_after (calls : List Call) (key : String) :
    (after calls).clusters.get? key = figuresOf key calls := by
  induction calls using List.reverseRecOn with
  | nil => rfl
  | append_singleton calls c ih =>
    unfold after figuresOf at ih ⊢
    rw [List.foldl_append, List.foldl_append, List.foldl_cons, List.foldl_nil, List.foldl_cons,
      List.foldl_nil, Call.apply_eq_update, get?_update, ← ih]
    split
    · next hkey =>
      rw [← hkey]
      rfl
    · rfl

/-- A cluster has figures if some call mentions it. -/
theorem isSome_figuresOf_iff (calls : List Call) (key : String) :
    (figuresOf key calls).isSome = true ↔ ∃ c ∈ calls, c.cluster = key := by
  induction calls using List.reverseRecOn with
  | nil => exact iff_of_false Bool.false_ne_true (by simp)
  | append_singleton calls c ih =>
    unfold figuresOf at ih ⊢
    rw [List.foldl_append, List.foldl_cons, List.foldl_nil]
    simp only [List.mem_append, List.mem_singleton, or_and_right, exists_or, exists_eq_left]
    split
    · next hkey => exact iff_of_true rfl (.inr hkey)
    · next hkey => rw [ih, or_iff_left hkey]

/-- The keys are plain if calls mention only clusters with plain keys. -/
theorem forall_entries_iff (calls : List Call) :
    (∀ c ∈ (after calls).clusters.entries, IsPlain c.1) ↔ ∀ c ∈ calls, IsPlain c.cluster := by
  constructor
  · intro h c hc
    obtain ⟨f, hf⟩ := Option.isSome_iff_exists.mp
      ((isSome_figuresOf_iff calls c.cluster).mpr ⟨c, hc, rfl⟩)
    rw [← get?_after] at hf
    exact h _ ((sorted_after calls).mem_entries_iff.mpr hf)
  · intro h c hc
    have hget := (sorted_after calls).mem_entries_iff.mp hc
    rw [get?_after] at hget
    obtain ⟨call, hcall, hkey⟩ := (isSome_figuresOf_iff calls c.1).mp (Option.isSome_of_mem hget)
    exact hkey ▸ h call hcall

/-- **An exposition is decodable exactly if no key needs escapes.** After any calls, what is written
can be read back as the points of the recorder if and only if all keys of clusters are plain, and
then every line that is neither blank nor a comment is a sample. The points are just the figures
that calls have made for the clusters they mention. So calls with plain keys which lead to the same
text have led to the same figures of every cluster, up to the decimals of a confidence that are not
written. -/
theorem decodable_iff (calls : List Call) :
    let r := after calls
    (read? r.render = some r.points ↔ ∀ c ∈ calls, IsPlain c.cluster)
      ∧ ((∀ c ∈ calls, IsPlain c.cluster) → ∀ line ∈ r.render.toList.splitOn '\n',
          isSample line = true → (point? line).isSome = true)
      ∧ (∀ p, p ∈ r.points ↔ ∃ key f g, figuresOf key calls = some f ∧ p = Figure.point g key f)
      ∧ ∀ calls', (∀ c ∈ calls, IsPlain c.cluster) → (∀ c ∈ calls', IsPlain c.cluster) →
          r.render = (after calls').render → ∀ key g, (figuresOf key calls).map (Figure.value · g)
            = (figuresOf key calls').map (Figure.value · g) := by
  intro r
  have hreads {calls : List Call} (hplain : ∀ c ∈ calls, IsPlain c.cluster) :
      read? (after calls).render = some (after calls).points :=
    read?_render ((forall_entries_iff calls).mpr hplain)
  refine ⟨⟨fun h => ?_, hreads⟩, fun hplain => ?_, fun p => ?_,
    fun calls' hplain hplain' h key g => ?_⟩
  · by_contra hnot
    exact read?_render_ne (fun hentries => hnot ((forall_entries_iff calls).mp hentries)) h
  · exact (isSome_points?_iff _).mp (Option.isSome_of_mem (hreads hplain))
  · simp only [← get?_after]
    exact mem_points_iff (sorted_after calls)
  · have hpoints : r.points = (after calls').points := by
      refine Option.some.inj ((hreads hplain).symm.trans ?_)
      rw [← hreads hplain']
      exact congrArg _ h
    rw [← get?_after, ← get?_after]
    exact value_eq_of_points (sorted_after calls) (sorted_after calls') hpoints key g

/-- Two confidences that differ in the fifth decimal are written in the same way, and read as the
same number of ten-thousandths. -/
theorem decodable_iff_half :
    let calls (confidence : Float) : List Call :=
      [.decision "db/main" .primaries .scaleUp confidence, .replicas "db/main" .primaries 3]
    (∀ c ∈ calls 0.5, IsPlain c.cluster) ∧ (∀ c ∈ calls 0.50001, IsPlain c.cluster)
      ∧ (after (calls 0.5)).render = (after (calls 0.50001)).render
      ∧ read? (after (calls 0.5)).render = some (after (calls 0.5)).points
      ∧ (figuresOf "db/main" (calls 0.50001)).map (Figure.value · (.confidence .primaries))
        = some (.finite false 5000 (-4)) := by
  intro calls
  have hplain : ∀ c ∈ calls 0.5, IsPlain c.cluster := by decide
  have hplain' : ∀ c ∈ calls 0.50001, IsPlain c.cluster := by decide
  have hsame : (after (calls 0.5)).render = (after (calls 0.50001)).render := by decide +kernel
  obtain ⟨hread, -, -, htold⟩ := decodable_iff (calls 0.5)
  refine ⟨hplain, hplain', hsame, hread.mpr hplain, ?_⟩
  rw [← htold (calls 0.50001) hplain hplain' hsame "db/main" (.confidence .primaries)]
  decide +kernel

/-- A key that closes its label and ends the line, so that a comment follows. -/
def closingKey : String := "x\"\x7d 1\n#"

/-- Under such a key each figure is read as a one, and as of another cluster. -/
theorem reads_closingKey (f : ClusterFigures) (g : Figure) :
    Reads (figureLine closingKey f g)
      [⟨g.family.name, [("cluster", "x")], .finite false 1 0⟩] := by
  obtain ⟨tail, htail, hline⟩ := exists_figureLine f g
  have hsplit : figureLine closingKey f g
      = (sampleText g.family.name [("cluster", "x")] ['1'] ++ ['\n'])
        ++ '#' :: ('"' :: tail ++ ['\n']) := by
    rw [hline]
    simp [closingKey, sampleText, labelText]
  have hlabel : ∀ l ∈ [("cluster", "x")], IsLabel l := by decide
  rw [hsplit]
  exact (reads_sampleText g.isMetricName_family hlabel (by simp)
    (List.forall_mem_singleton.mpr rfl) rfl).append (reads_comment (by simp [htail]))

/-- **All figures of such a cluster are misread**, whatever they are. -/
theorem read?_render_closingKey {r : Recorder} {f : ClusterFigures}
    (hentries : r.clusters.entries = [(closingKey, f)]) : read? r.render
      = some (Figure.all.map fun g => ⟨g.family.name, [("cluster", "x")], .finite false 1 0⟩) := by
  have hreads : Reads r.render.toList
      (Figure.all.map fun g => ⟨g.family.name, [("cluster", "x")], .finite false 1 0⟩) := by
    rw [toList_render, Figure.all, List.map_flatMap]
    refine reads_flatMap fun row hrow => ?_
    rw [hentries, List.flatMap_singleton, ← List.nil_append (List.map _ _), List.map_eq_flatMap]
    exact (reads_headLines hrow).append (reads_flatMap fun g _ => reads_closingKey f g)
  exact hreads.points?

/-- **Expositions that are not decodable.** With a quote in the key of a cluster there is a line
that is no sample. With the end of a line in a key all lines may be samples, and speak of a cluster
that was never mentioned. -/
theorem misread :
    let quoted := after [.replicas "a\"b" .primaries 3]
    let closing := after [.replicas closingKey .primaries 3]
    (∃ line ∈ quoted.render.toList.splitOn '\n', isSample line = true ∧ point? line = none)
      ∧ read? quoted.render ≠ some quoted.points
      ∧ figuresOf "x" [.replicas closingKey .primaries 3] = none
      ∧ read? closing.render = some (Figure.all.map fun g =>
          ⟨g.family.name, [("cluster", "x")], .finite false 1 0⟩) := by
  intro quoted closing
  have hnone : points? quoted.render.toList = none := by
    rw [toList_render]
    decide +kernel
  refine ⟨?_, ?_, rfl, read?_render_closingKey rfl⟩
  · by_contra hall
    have hsome := (isSome_points?_iff quoted.render.toList).mpr fun line hline hsample => by
      by_contra hbad
      exact hall ⟨line, hline, hsample, by simpa using hbad⟩
    rw [hnone] at hsome
    cases hsome
  · unfold Exposition.read?
    rw [hnone]
    exact nofun

end ClusterScaling.Recorder
