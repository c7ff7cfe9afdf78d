import ClusterScaling.Document

/-!
# Clusters and their tiers

A cluster has two tiers that are scaled independently. The **primaries**
vote, so their count is kept odd; the **secondaries** serve reads and are
spread over zones. Whatever exists once for each tier is a `PerTier`, and
every statement over both tiers goes through `PerTier.get`.
-/

namespace ClusterScaling

open Document

/-- The two tiers of a cluster. -/
inductive Tier where
  /-- The members that vote. -/
  | primaries
  /-- The read replicas. -/
  | secondaries
  deriving DecidableEq, Repr

namespace Tier

/-- Both tiers, in the order in which they are worked on. -/
def all : List Tier := [primaries, secondaries]

/-- The name of a tier. -/
def name : Tier → String
  | primaries => "primaries"
  | secondaries => "secondaries"

/-- A tier, by its name. -/
def decode : Document → Decoded Tier := asVariant all name

@[simp]
theorem mem_all (t : Tier) : t ∈ all := by cases t <;> decide

/-- The first of the two tiers that passes a test. -/
theorem find?_all_eq_some {p : Tier → Bool} {t : Tier} :
    all.find? p = some t ↔ p t = true ∧ (t = secondaries → p primaries = false) := by
  cases hprimaries : p primaries <;> cases hsecondaries : p secondaries <;> cases t <;>
    simp [all, hprimaries, hsecondaries]

end Tier

/-- One value for each tier. -/
structure PerTier (α : Type) where
  /-- The value for the primaries. -/
  primaries : α
  /-- The value for the secondaries. -/
  secondaries : α
  deriving DecidableEq, Repr

namespace PerTier

variable {α β : Type}

/-- The value for a tier. -/
def get (p : PerTier α) : Tier → α
  | .primaries => p.primaries
  | .secondaries => p.secondaries

/-- The same value for both tiers. -/
def both (a : α) : PerTier α := ⟨a, a⟩

/-- The value of a function at each tier. -/
def ofFun (f : Tier → α) : PerTier α := ⟨f .primaries, f .secondaries⟩

/-- A function applied for each tier. -/
def map (f : α → β) (p : PerTier α) : PerTier β := ⟨f p.primaries, f p.secondaries⟩

/-- The value for one tier replaced. -/
def set (p : PerTier α) (t : Tier) (a : α) : PerTier α :=
  match t with
  | .primaries => { p with primaries := a }
  | .secondaries => { p with secondaries := a }

/-- The value for one tier changed by a function. -/
def modify (p : PerTier α) (t : Tier) (f : α → α) : PerTier α := p.set t (f (p.get t))

instance [Inhabited α] : Inhabited (PerTier α) := ⟨both default⟩

theorem get_primaries (p : PerTier α) : p.get .primaries = p.primaries := rfl

theorem get_secondaries (p : PerTier α) : p.get .secondaries = p.secondaries := rfl

@[simp]
theorem get_ofFun (f : Tier → α) (t : Tier) : (ofFun f).get t = f t := by cases t <;> rfl

@[simp]
theorem get_both (a : α) (t : Tier) : (both a).get t = a := by cases t <;> rfl

@[simp]
theorem get_map (f : α → β) (p : PerTier α) (t : Tier) : (p.map f).get t = f (p.get t) := by
  cases t <;> rfl

@[simp]
theorem get_set (p : PerTier α) (t u : Tier) (a : α) :
    (p.set t a).get u = if t = u then a else p.get u := by
  cases t <;> cases u <;> rfl

end PerTier

/-- Counts of replicas in both tiers. -/
abbrev Replicas := PerTier UInt32

namespace Replicas

/-- The counts in a document. -/
def decode (d : Document) : Decoded Replicas := do
  let r ← Record.ofDocument ["primaries", "secondaries"] d
  let p ← r.read "primaries" asCount
  let s ← r.read "secondaries" asCount
  pure ⟨← r.required "primaries" p, ← r.required "secondaries" s⟩

/-- The counts as a document. -/
def encode (r : Replicas) : Document :=
  mapping [("primaries", ofCount r.primaries), ("secondaries", ofCount r.secondaries)]

end Replicas

/-- A cluster as its operator describes it. -/
structure Cluster where
  /-- The namespace that the name belongs to. -/
  space : String
  /-- The name within the namespace. -/
  name : String
  /-- The metric addresses of the members of each tier. -/
  members : PerTier (List String)
  /-- The base address of the metrics database, if the cluster has one. -/
  prometheusUrl : Option String

namespace Cluster

/-- The identity of a cluster: everything that is kept about it is kept under this key. -/
def key (c : Cluster) : String := c.space ++ "/" ++ c.name

/-- A cluster in a document. -/
def decode (d : Document) : Decoded Cluster := do
  let r ← Record.ofDocument
    ["namespace", "name", "primary_members", "secondary_members", "prometheus_url"] d
  let space ← r.read "namespace" asText
  let name ← r.read "name" asText
  let primaries ← r.read "primary_members" (asList asText)
  let secondaries ← r.read "secondary_members" (asList asText)
  let url ← r.read "prometheus_url" (asOption asText)
  let space ← r.required "namespace" space
  let name ← r.required "name" name
  let primaries ← r.required "primary_members" primaries
  let secondaries ← r.required "secondary_members" secondaries
  pure ⟨space, name, ⟨primaries, secondaries⟩, ← r.nullable url⟩

/-- A cluster as a document. -/
def encode (c : Cluster) : Document :=
  mapping [("namespace", text c.space), ("name", text c.name),
    ("primary_members", ofList text c.members.primaries),
    ("secondary_members", ofList text c.members.secondaries),
    ("prometheus_url", ofOption text c.prometheusUrl)]

end Cluster

end ClusterScaling
