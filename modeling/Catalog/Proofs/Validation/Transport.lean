import Catalog.Proofs.Table
import Catalog.Proofs.Text.Cut
import Catalog.Proofs.Validation.Found
import Catalog.Proofs.Validation.Placeholder

/-!
# Checks of transports

What the check of a transport over the network finds is known in full from its URL and its variables:
whether the URL is one of the web, the placeholders that are no variables, in the order of the URL,
and the variables that are no placeholders, in the order of their names.

## Main definitions

* `IsWebUrl` — a text is a URL that can be reached over the web.

## Main results

* `isTransportUrl_iff` — the URLs that are accepted.
* `Transport.mem_unfilled_iff`, `Transport.mem_unused_iff` — the differences of both sets of names.
* `Transport.findings_exact` — **all that is found in a transport over the network.**
-/

namespace Catalog

open Text

/-! ### URLs of the web -/

/-- A text is a scheme of the web and at least one character behind it, none of them blank. -/
def IsWebUrl (cs : List Char) : Prop :=
  ∃ rest, rest ≠ [] ∧ (∀ c ∈ rest, isBlank c = false) ∧
    (cs = "http://".toList ++ rest ∨ cs = "https://".toList ++ rest)

theorem isTransportUrl_iff {url : String} : isTransportUrl url = true ↔ IsWebUrl url.toList := by
  rw [isTransportUrl, IsWebUrl, Bool.or_eq_true]
  simp only [and_or_left, exists_or, ← afterFront?_eq_some_iff]
  -- the same for both schemes
  refine or_congr ?_ ?_
  all_goals
    split
    · next rest hrest =>
      rw [hrest]
      simp
    · next hrest =>
      rw [hrest]
      simp

instance (url : String) : Decidable (IsWebUrl url.toList) :=
  decidable_of_iff (isTransportUrl url = true) isTransportUrl_iff

namespace Transport

variable {t : Transport} {url n : String}

/-! ### Placeholders and variables -/

/-- The placeholders of the URL that no variable fills. -/
def unfilled (t : Transport) (url : String) : List String :=
  (placeholders url).filter fun n => !t.variableNames.contains n

/-- The variables that fill no placeholder of the URL. -/
def unused (t : Transport) (url : String) : List String :=
  t.variableNames.filter fun n => !(placeholders url).contains n

theorem mem_unfilled_iff :
    n ∈ t.unfilled url ↔ IsPlaceholder url.toList n ∧ n ∉ t.variableNames := by
  rw [unfilled, List.mem_filter, mem_placeholders_iff]
  simp

theorem mem_unused_iff :
    n ∈ t.unused url ↔ n ∈ t.variableNames ∧ ¬ IsPlaceholder url.toList n := by
  rw [unused, List.mem_filter, ← mem_placeholders_iff]
  simp

/-- Both sets of names are the same just when neither has a name that the other one lacks. -/
theorem unfilled_and_unused_eq_nil_iff : t.unfilled url = [] ∧ t.unused url = [] ↔
    ∀ n, IsPlaceholder url.toList n ↔ n ∈ t.variableNames := by
  simp only [List.eq_nil_iff_forall_not_mem, mem_unfilled_iff, mem_unused_iff, not_and, not_not]
  rw [← forall_and]
  exact forall_congr' fun n => iff_def.symm

theorem pairwise_variableNames (h : ∀ vs, t.inputs = some vs → Table.Sorted vs) :
    t.variableNames.Pairwise (· < ·) := by
  rw [variableNames, Table.keys, List.pairwise_map]
  cases hinputs : t.inputs with
  | none => exact List.Pairwise.nil
  | some vs => exact h vs hinputs

/-! ### All that is found -/

theorem findings_of_isNetwork (hkind : t.kind.isNetwork = true) (hurl : t.url = some url)
    (strict : Bool) (location : String) :
    t.findings strict location =
      (if IsWebUrl url.toList then [] else Findings.error (location ++ ".url") (.badUrl url)) ++
        (t.unfilled url).map (fun n =>
          ⟨if strict then .error else .warning, location ++ ".url",
            .undeclaredVariable n location⟩) ++
        (t.unused url).map (fun n =>
          ⟨.warning, location ++ ".variables." ++ n, .unusedVariable n⟩) := by
  rw [findings, hkind, hurl]
  simp only [← isTransportUrl_iff]
  rfl

/-- **All that is found in a transport over the network.** Its URL is refused if it is none of the
web. Then each placeholder that no variable fills is reported once, in the order of the first
occurrence, and each variable that fills no placeholder is reported once, in the order of the names.
So nothing is found just when the URL is one of the web and its placeholders are the variables. -/
theorem findings_exact (hkind : t.kind.isNetwork = true) (hurl : t.url = some url)
    (hsorted : ∀ vs, t.inputs = some vs → Table.Sorted vs) (strict : Bool) (location : String) :
    (∃ unfilled unused : List String,
      t.findings strict location =
        (if IsWebUrl url.toList then [] else [⟨.error, location ++ ".url", .badUrl url⟩]) ++
          unfilled.map (fun n =>
            ⟨if strict then .error else .warning, location ++ ".url",
              .undeclaredVariable n location⟩) ++
          unused.map (fun n =>
            ⟨.warning, location ++ ".variables." ++ n, .unusedVariable n⟩) ∧
      unfilled.Nodup ∧ unfilled.Pairwise (OccursFirst url.toList) ∧
      (∀ n, n ∈ unfilled ↔ IsPlaceholder url.toList n ∧ n ∉ t.variableNames) ∧
      unused.Nodup ∧ unused.Pairwise (· < ·) ∧
      ∀ n, n ∈ unused ↔ n ∈ t.variableNames ∧ ¬ IsPlaceholder url.toList n) ∧
    (t.findings strict location = [] ↔
      IsWebUrl url.toList ∧ ∀ n, IsPlaceholder url.toList n ↔ n ∈ t.variableNames) := by
  have hall := findings_of_isNetwork hkind hurl strict location
  have hnames := pairwise_variableNames hsorted
  constructor
  · have hunused : (t.unused url).Pairwise (· < ·) := hnames.filter _
    exact ⟨t.unfilled url, t.unused url, hall, (nodup_placeholders url).filter _,
      (pairwise_placeholders url).filter _, fun n => mem_unfilled_iff,
      hunused.imp String.ne_of_lt, hunused, fun n => mem_unused_iff⟩
  · have hbad : (if IsWebUrl url.toList then [] else
        Findings.error (location ++ ".url") (.badUrl url)) = [] ↔ IsWebUrl url.toList := by
      split <;> simp [*, Findings.error]
    rw [hall, List.append_eq_nil_iff, List.append_eq_nil_iff, List.map_eq_nil_iff,
      List.map_eq_nil_iff, hbad, and_assoc, unfilled_and_unused_eq_nil_iff]

/-- A URL with nested, empty, repeated and unclosed braces. -/
def bracedUrl : String := "https://\x7b\x7ba\x7d\x7d\x7bb\x7d/\x7b\x7d\x7bc\x7d\x7ba\x7d\x7bd"

/-- A transport at this URL with a variable that fills a placeholder and one that fills none. -/
def bracedTransport : Transport :=
  ⟨.sse, some bracedUrl, none, some [("b", default), ("d", default)], []⟩

theorem findings_exact_bracedTransport :
    bracedTransport.kind.isNetwork = true ∧ IsWebUrl bracedUrl.toList ∧
      (bracedTransport.findings false "t").map (·.problem) =
        [.undeclaredVariable "a" "t", .undeclaredVariable "c" "t", .unusedVariable "d"] ∧
      ¬ ∀ n, IsPlaceholder bracedUrl.toList n ↔ n ∈ bracedTransport.variableNames := by
  have hsorted : ∀ vs, bracedTransport.inputs = some vs → Table.Sorted vs := by
    rintro vs ⟨⟩
    have hlt : "b" < "d" := by decide
    exact List.pairwise_pair.mpr hlt
  have hexact := findings_exact (t := bracedTransport) rfl rfl hsorted false "t"
  have hweb : IsWebUrl bracedUrl.toList := by decide
  refine ⟨rfl, hweb, by decide, fun h => ?_⟩
  have hnone : bracedTransport.findings false "t" = [] := hexact.2.mpr ⟨hweb, h⟩
  exact absurd hnone (by decide)

end Transport

end Catalog
