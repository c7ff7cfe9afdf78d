import Mathlib.Data.List.TakeWhile
import ClusterScaling.Probe
import ClusterScaling.Proofs.Text.Percent

/-!
# What a query can do to an address

An address passes parameters to a server: what stands between its first
question mark and its fragment is cut at each ampersand, and each piece at
its first equals sign (`Http.parameters`). A query is written at the end of
an address, as the value of the last parameter, and since nothing that has
a role in a URL is left in it, no cut is made in it. So however strange a
query is, it makes the last value longer and does nothing else
(`Probe.parameters_query`).

Nothing is assumed of the base address. One with a question mark of its own
has parameters of its own, and behind a number sign everything is fragment,
so that nothing is asked at all. The usual one has neither, and then the
query is the value of the only parameter.
-/

namespace ClusterScaling

namespace Http

/-- A parameter that an address passes to a server. -/
structure Parameter where
  /-- What stands in front of the first equals sign. -/
  name : String
  /-- What stands behind it. -/
  value : String
  deriving DecidableEq

/-- The parameter in a piece of an address. -/
def Parameter.ofPiece (cs : List Char) : Parameter :=
  ⟨String.ofList (cs.takeWhile (· != '=')), String.ofList ((cs.dropWhile (· != '=')).drop 1)⟩

/-- The parameters of an address. -/
def parameters (cs : List Char) : List Parameter :=
  match (cs.takeWhile (· != '#')).dropWhile (· != '?') with
  | [] => []
  | _ :: query => (query.splitOn '&').map .ofPiece

/-! ## Cutting a text that is followed by another one -/

variable {c : Char} {cs more : List Char}

theorem takeWhile_of_not_mem (h : c ∉ cs) (more : List Char) :
    (cs ++ more).takeWhile (· != c) = cs ++ more.takeWhile (· != c) :=
  List.takeWhile_append_of_pos fun _ hd => bne_iff_ne.mpr fun heq => h (heq ▸ hd)

theorem dropWhile_of_not_mem (h : c ∉ cs) (more : List Char) :
    (cs ++ more).dropWhile (· != c) = more.dropWhile (· != c) :=
  List.dropWhile_append_of_pos fun _ hd => bne_iff_ne.mpr fun heq => h (heq ▸ hd)

/-- The last piece of a text is made longer by what follows, if this is not cut. -/
theorem exists_splitOn_append (c : Char) (cs : List Char) : ∃ others last, ∀ more, c ∉ more →
    (cs ++ more).splitOn c = others ++ [last ++ more] := by
  by_cases hmem : c ∈ cs
  · -- the last piece begins behind the last cut
    obtain ⟨last, before, hreverse, hlast⟩ :=
      List.eq_append_cons_of_mem (List.mem_reverse.mpr hmem)
    have hcs : cs = before.reverse ++ c :: last.reverse := by
      rw [← List.reverse_reverse cs, hreverse, List.reverse_append, List.reverse_cons]
      simp only [List.append_assoc, List.singleton_append]
    refine ⟨before.reverse.splitOn c, last.reverse, fun more hmore => ?_⟩
    have hwhole : c ∉ last.reverse ++ more :=
      List.not_mem_append (fun hc => hlast (List.mem_reverse.mp hc)) hmore
    rw [hcs, List.append_assoc, List.cons_append, List.splitOn_append_cons_self,
      List.splitOn_eq_singleton hwhole]
  · exact ⟨[], cs, fun more hmore => List.splitOn_eq_singleton (List.not_mem_append hmem hmore)⟩

/-- A piece with an equals sign has its name, and what follows goes to its value. -/
theorem Parameter.ofPiece_append (h : '=' ∈ cs) (more : List Char) : ofPiece (cs ++ more)
    = ⟨(ofPiece cs).name, (ofPiece cs).value ++ String.ofList more⟩ := by
  obtain ⟨name, value, rfl, hname⟩ := List.eq_append_cons_of_mem h
  have hpiece (value : List Char) : ofPiece (name ++ '=' :: value)
      = ⟨String.ofList name, String.ofList value⟩ := by
    rw [ofPiece, takeWhile_of_not_mem hname, dropWhile_of_not_mem hname]
    simp
  rw [List.append_assoc, List.cons_append, hpiece, hpiece, String.ofList_append]

/-! ## Where the parameters of an address come from -/

/-- The parameters of an address without a fragment stand behind its first question mark. -/
theorem parameters_of_query {front query : List Char} (hmark : '?' ∉ front) (hfront : '#' ∉ front)
    (hquery : '#' ∉ query) :
    parameters (front ++ '?' :: query) = (query.splitOn '&').map .ofPiece := by
  have hshown : (front ++ '?' :: query).takeWhile (· != '#') = front ++ '?' :: query := by
    rw [takeWhile_of_not_mem hfront, List.takeWhile_cons_of_pos (by decide)]
    rw [show query = query ++ [] from (List.append_nil _).symm, takeWhile_of_not_mem hquery]
    rfl
  rw [parameters, hshown, dropWhile_of_not_mem hmark, List.dropWhile_cons_of_neg (by decide)]

/-- What follows a number sign passes nothing. -/
theorem parameters_of_fragment (h : '#' ∈ cs) (more : List Char) :
    parameters (cs ++ more) = parameters cs := by
  obtain ⟨shown, fragment, rfl, hshown⟩ := List.eq_append_cons_of_mem h
  have hcut (fragment : List Char) :
      (shown ++ '#' :: fragment).takeWhile (· != '#') = shown := by
    rw [takeWhile_of_not_mem hshown, List.takeWhile_cons_of_neg (by decide), List.append_nil]
  rw [parameters, parameters, List.append_assoc, List.cons_append, hcut, hcut]

/-- **What follows an address without being cut makes the last value longer**, if there is an equals
sign in front of it, and has no effect at all behind a number sign. -/
theorem parameters_append (front : List Char) {start : List Char} (hmark : '?' ∈ front)
    (hstart : '=' ∈ start) (hwhole : '&' ∉ start ∧ '#' ∉ start) :
    (∀ more, parameters (front ++ start ++ more) = parameters front)
      ∨ ∃ others name value, ∀ more, '&' ∉ more → '#' ∉ more →
          parameters (front ++ start ++ more)
            = others ++ [⟨name, value ++ String.ofList more⟩] := by
  by_cases hfragment : '#' ∈ front
  · refine .inl fun more => ?_
    rw [List.append_assoc]
    exact parameters_of_fragment hfragment _
  · obtain ⟨path, query, rfl, hpath⟩ := List.eq_append_cons_of_mem hmark
    simp only [List.mem_append, List.mem_cons, not_or] at hfragment
    obtain ⟨hclean, -, hquery⟩ := hfragment
    obtain ⟨others, last, hsplit⟩ := exists_splitOn_append '&' query
    refine .inr ⟨others.map .ofPiece, (Parameter.ofPiece (last ++ start)).name,
      (Parameter.ofPiece (last ++ start)).value, fun more hamp hnumber => ?_⟩
    have hall : '#' ∉ query ++ (start ++ more) :=
      List.not_mem_append hquery (List.not_mem_append hwhole.2 hnumber)
    have hrest : '&' ∉ start ++ more := List.not_mem_append hwhole.1 hamp
    rw [List.append_assoc, List.append_assoc, List.cons_append,
      parameters_of_query hpath hclean hall, hsplit _ hrest, List.map_append, List.map_singleton,
      ← List.append_assoc,
      Parameter.ofPiece_append (List.mem_append_right last hstart)]

/-! ## What is sent -/

/-- An authority ends in front of the path, of the query and of the fragment. -/
theorem Url.exists_of_authority? {a a' : Url.Authority} {rest : List Char}
    (h : Url.authority? a cs = some (a', rest)) :
    ∃ front, cs = front ++ rest ∧ '?' ∉ front ∧ '#' ∉ front := by
  induction cs generalizing a with
  | nil =>
    cases h
    exact ⟨[], rfl, List.not_mem_nil, List.not_mem_nil⟩
  | cons c cs ih =>
    rw [authority?] at h
    split at h
    · cases h
      exact ⟨[], rfl, List.not_mem_nil, List.not_mem_nil⟩
    · next hinside =>
      simp only [Bool.or_eq_true, decide_eq_true_eq, not_or] at hinside
      obtain ⟨⟨-, hmark⟩, hnumber⟩ := hinside
      split at h
      · obtain ⟨front, rfl, hfront⟩ := ih h
        refine ⟨c :: front, rfl, ?_, ?_⟩
        · exact List.not_mem_cons_of_ne_of_not_mem (Ne.symm hmark) hfront.1
        · exact List.not_mem_cons_of_ne_of_not_mem (Ne.symm hnumber) hfront.2
      · cases h

theorem Url.eq_takeWhile_of_target? {t : List Char} (h : target? cs = some t) :
    t = cs.takeWhile (· != '#') := by
  unfold target? at h
  dsimp only at h
  split at h
  · exact (Option.some.inj h).symm
  · cases h

/-- The target is what stands behind the scheme and the authority, up to the fragment. -/
theorem Url.exists_of_ofText? {s : String} {u : Url} (h : ofText? s = some u) :
    ∃ front rest, s.toList = front ++ rest ∧ '?' ∉ front ∧ '#' ∉ front
      ∧ u.target.toList = rest.takeWhile (· != '#') := by
  unfold ofText? at h
  dsimp only at h
  split at h
  · next hfront =>
    have hscheme := of_decide_eq_true (Bool.and_eq_true_iff.mp hfront).2
    split at h
    · next a rest hauthority =>
      split at h
      · obtain ⟨t, ht, rfl⟩ := Option.map_eq_some_iff.mp h
        obtain ⟨authority, hrest, hmark, hnumber⟩ := exists_of_authority? hauthority
        -- the scheme has letters, a colon and slashes
        have hplain {c : Char} (hc : c.toLower ∉ scheme) : c ∉ s.toList.take scheme.length :=
          fun hmem => hc (hscheme ▸ List.mem_map_of_mem hmem)
        refine ⟨s.toList.take scheme.length ++ authority, rest, ?_, ?_, ?_, ?_⟩
        · rw [List.append_assoc, ← hrest, List.take_append_drop]
        · exact List.not_mem_append (hplain (by decide)) hmark
        · exact List.not_mem_append (hplain (by decide)) hnumber
        · rw [String.toList_ofList, eq_takeWhile_of_target? ht]
      · cases h
    · cases h
  · cases h

/-- **A server is told the parameters of the address.** -/
theorem parameters_target {s : String} {u : Url} (h : Url.ofText? s = some u) :
    parameters u.target.toList = parameters s.toList := by
  obtain ⟨front, rest, hs, hmark, hnumber, htarget⟩ := Url.exists_of_ofText? h
  rw [hs, htarget, parameters, parameters, takeWhile_of_not_mem hnumber,
    dropWhile_of_not_mem hmark, List.takeWhile_idem]

end Http

namespace Probe

open Http Text

/-! ## Addresses of queries -/

/-- What stands in front of the parameter in the address of a query. -/
def front (base : String) : List Char := (dropSlashes base).toList ++ "/api/v1/query?".toList

theorem toList_url (t : Tier) (base q : String) (field : Field) : (query t base q field).url.toList
    = front base ++ "query=".toList ++ (percentEncoded q).toList := by
  simp [url, front]

/-- Nothing is added to a base address. -/
theorem mem_of_mem_dropSlashes {base : String} {c : Char} (h : c ∈ (dropSlashes base).toList) :
    c ∈ base.toList := by
  rw [dropSlashes, String.toList_ofList, List.mem_reverse] at h
  exact List.mem_reverse.mp ((List.dropWhile_suffix _).mem h)

/-- An encoded query stays in one piece, and in front of the fragment. -/
theorem isWhole_percentEncoded (q : String) :
    '&' ∉ (percentEncoded q).toList ∧ '#' ∉ (percentEncoded q).toList :=
  have hencoded := isEncoded_percentEncoded q
  ⟨hencoded.not_mem (by decide) (by decide), hencoded.not_mem (by decide) (by decide)⟩

/-- **A query can only make the last value longer.** What else an address passes depends on its base
alone. -/
theorem parameters_query (t : Tier) (base : String) (field : Field) :
    (∀ q q', parameters (query t base q field).url.toList
        = parameters (query t base q' field).url.toList)
      ∨ ∃ others name value, ∀ q, parameters (query t base q field).url.toList
          = others ++ [⟨name, value ++ percentEncoded q⟩] := by
  have hmark : '?' ∈ front base := List.mem_append_right _ (by decide)
  have hname : '=' ∈ "query=".toList := by decide
  rcases parameters_append (front base) hmark hname (by decide) with
    hnone | ⟨others, name, value, hlast⟩
  · refine .inl fun q q' => ?_
    rw [toList_url, toList_url, hnone, hnone]
  · refine .inr ⟨others, name, value, fun q => ?_⟩
    obtain ⟨hand, hnumber⟩ := isWhole_percentEncoded q
    rw [toList_url, hlast _ hand hnumber, String.ofList_toList]

/-- **With the usual base address a query is the value of the only parameter.** -/
theorem parameters_query_of_plain (t : Tier) {base : String} (hmark : '?' ∉ base.toList)
    (hnumber : '#' ∉ base.toList) (q : String) (field : Field) :
    parameters (query t base q field).url.toList = [⟨"query", percentEncoded q⟩] := by
  obtain ⟨hand, hfragment⟩ := isWhole_percentEncoded q
  have hfront {c : Char} (hbase : c ∉ base.toList) (hc : c ∉ "/api/v1/query".toList) :
      c ∉ (dropSlashes base).toList ++ "/api/v1/query".toList :=
    List.not_mem_append (fun hmem => hbase (mem_of_mem_dropSlashes hmem)) hc
  have hurl : (query t base q field).url.toList = ((dropSlashes base).toList
      ++ "/api/v1/query".toList) ++ '?' :: ("query=".toList ++ (percentEncoded q).toList) := by
    simp [url]
  have hpiece : Parameter.ofPiece "query=".toList = ⟨"query", ""⟩ := by decide
  rw [hurl, parameters_of_query (hfront hmark (by decide)) (hfront hnumber (by decide))
    (List.not_mem_append (by decide) hfragment),
    List.splitOn_eq_singleton (List.not_mem_append (by decide) hand),
    List.map_singleton, Parameter.ofPiece_append (by decide), hpiece, String.ofList_toList,
    String.empty_append]

/-- **Queries are encoded without loss.** What is encoded consists of unreserved characters and
triplets, decoding gives back the bytes of the query, and queries are encoded piece by piece. So no
two queries are the same value of an address, and whatever the base address, a query cannot pass a
parameter besides: it makes the last value longer, or behind a number sign does nothing. With a usual
base address it is the value of the only parameter, and this is what a server is told. -/
theorem query_lossless :
    (∀ q, IsEncoded (percentEncoded q).toList)
      ∧ (∀ q, percentDecoded? (percentEncoded q).toList = some q.toUTF8.toList)
      ∧ (∀ q q', percentEncoded (q ++ q') = percentEncoded q ++ percentEncoded q')
      ∧ (∀ q q', percentEncoded q = percentEncoded q' → q = q')
      ∧ (∀ t base field,
        (∀ q q', parameters (query t base q field).url.toList
            = parameters (query t base q' field).url.toList)
          ∨ ∃ others name value, ∀ q, parameters (query t base q field).url.toList
              = others ++ [⟨name, value ++ percentEncoded q⟩])
      ∧ ∀ t base q field, '?' ∉ base.toList → '#' ∉ base.toList →
        parameters (query t base q field).url.toList = [⟨"query", percentEncoded q⟩]
          ∧ ∀ u, Url.ofText? (query t base q field).url = some u →
            parameters u.target.toList = [⟨"query", percentEncoded q⟩] := by
  refine ⟨isEncoded_percentEncoded, percentDecoded?_percentEncoded, percentEncoded_append,
    fun _ _ => percentEncoded_inj, parameters_query, fun t base q field hmark hnumber => ?_⟩
  have honly := parameters_query_of_plain t hmark hnumber q field
  exact ⟨honly, fun u hu => (parameters_target hu).trans honly⟩

/-- A query with an ampersand, an equals sign, a number sign and what looks like an escape is told to
a server as it is. -/
theorem query_lossless_escapes :
    let p := query .primaries "http://m/" "up&a=%20#é" .cpu
    ∃ u, Url.ofText? p.url = some u
      ∧ parameters u.target.toList = [⟨"query", "up%26a%3D%2520%23%C3%A9"⟩]
      ∧ percentDecoded? "up%26a%3D%2520%23%C3%A9".toList = some "up&a=%20#é".toUTF8.toList := by
  intro p
  have hencoded : percentEncoded "up&a=%20#é" = "up%26a%3D%2520%23%C3%A9" := by decide +kernel
  obtain ⟨-, hdecoded, -, -, -, honly⟩ := query_lossless
  have hurl : (Url.ofText? p.url).isSome = true := by decide +kernel
  obtain ⟨u, hu⟩ := Option.isSome_iff_exists.mp hurl
  have htold := (honly .primaries "http://m/" "up&a=%20#é" .cpu (by decide) (by decide)).2 u hu
  rw [hencoded] at htold
  have hback := hdecoded "up&a=%20#é"
  rw [hencoded] at hback
  exact ⟨u, hu, htold, hback⟩

end Probe

end ClusterScaling
