import Catalog.Proofs.Validation.Found

/-!
# Strictness about URL variables

A check can be strict about the variables of a URL that nothing declares. Two checks of the same
document, one strict and one not, find the same: only the severity of such a variable is another
one. So the strict errors without these are the other errors, the other warnings without these are
the strict warnings, and what is left of both corresponds to each other in order.

## Main definitions

* `Finding.asError` — a finding as an error.
* `Hardens` — what two checks find of which the second one is strict.

## Main results

* `Transport.hardens_findings`, `Package.hardens_findings`, `Server.hardens_findings` — what is
  found in the parts of a document and in all of it.
* `Hardens.errors_eq`, `Hardens.warnings_eq`, `Hardens.undeclared_eq` — the lists of both checks.
* `Server.strict_reclassifies` — **strictness makes errors of the undeclared variables and changes
  nothing else.**
-/

namespace Catalog

/-! ### Undeclared variables -/

/-- Whether a problem is a placeholder that no variable fills. -/
def Problem.isUndeclared : Problem → Bool
  | undeclaredVariable .. => true
  | _ => false

namespace Finding

variable {f : Finding}

/-- The finding as an error. -/
def asError (f : Finding) : Finding := { f with severity := .error }

@[simp] theorem severity_asError (f : Finding) : f.asError.severity = .error := rfl

/-- The code of an undeclared variable where it is an error. -/
theorem code_eq_E009_iff :
    f.code = "E009" ↔ f.problem.isUndeclared = true ∧ f.severity = .error := by
  obtain ⟨severity, location, problem⟩ := f
  cases problem <;> cases severity <;> simp [code, Problem.isUndeclared]

/-- The code of an undeclared variable where it is a warning. -/
theorem code_eq_W001_iff :
    f.code = "W001" ↔ f.problem.isUndeclared = true ∧ f.severity = .warning := by
  obtain ⟨severity, location, problem⟩ := f
  cases problem <;> cases severity <;> simp [code, Problem.isUndeclared]

theorem code_asError (h : f.problem.isUndeclared = true) : f.asError.code = "E009" :=
  code_eq_E009_iff.mpr ⟨h, rfl⟩

/-- The codes of undeclared variables are those of no other problem. -/
theorem code_ne (h : f.problem.isUndeclared = false) : f.code ≠ "E009" ∧ f.code ≠ "W001" := by
  rw [ne_eq, code_eq_E009_iff, ne_eq, code_eq_W001_iff]
  simp [h]

/-- As an error, an undeclared variable has another code, and the rest of its document stays. -/
theorem toJson_asError (h : f.code = "W001") :
    f.asError.toJson = .obj (f.toJson.members.set "code" (.str "E009")) := by
  rw [toJson, code_asError (code_eq_W001_iff.mp h).1]
  rfl

end Finding

namespace Findings

theorem errors_cons (f : Finding) (fs : Findings) :
    errors (f :: fs) = if f.severity = .error then f :: errors fs else errors fs := by
  simp [errors, List.filter_cons]

theorem warnings_cons (f : Finding) (fs : Findings) :
    warnings (f :: fs) = if f.severity = .warning then f :: warnings fs else warnings fs := by
  simp [warnings, List.filter_cons]

end Findings

/-! ### Two checks -/

/-- What a check finds that is not strict, and what a strict one finds: an undeclared variable is a
warning in the first list and an error in the second one, and all else is the same in both. -/
inductive Hardens : (off on : Findings) → Prop
  | nil : Hardens [] []
  | undeclared {f : Finding} {off on : Findings} (hproblem : f.problem.isUndeclared = true)
    (hseverity : f.severity = .warning) (h : Hardens off on) :
    Hardens (f :: off) (f.asError :: on)
  | other {f : Finding} {off on : Findings} (hproblem : f.problem.isUndeclared = false)
    (h : Hardens off on) : Hardens (f :: off) (f :: on)

namespace Hardens

variable {off on off' on' : Findings} {α : Type} {array : String}
  {check check' : α → String → Findings}

theorem append (h : Hardens off on) (h' : Hardens off' on') :
    Hardens (off ++ off') (on ++ on') := by
  induction h with
  | nil => exact h'
  | undeclared hproblem hseverity _ ih => exact .undeclared hproblem hseverity ih
  | other hproblem _ ih => exact .other hproblem ih

/-- Without undeclared variables both checks find the same. -/
theorem same (h : ∀ f ∈ off, f.problem.isUndeclared = false) : Hardens off off := by
  induction off with
  | nil => exact .nil
  | cons f off ih =>
    obtain ⟨hf, hoff⟩ := List.forall_mem_cons.mp h
    exact .other hf (ih hoff)

theorem error {place : String} {problem : Problem} (h : problem.isUndeclared = false) :
    Hardens (Findings.error place problem) (Findings.error place problem) :=
  .other h .nil

theorem elementFindings (h : ∀ a place, Hardens (check a place) (check' a place)) (i : Nat)
    (as : List α) :
    Hardens (elementFindings array check i as) (elementFindings array check' i as) := by
  induction as generalizing i with
  | nil => exact .nil
  | cons a as ih => exact (h a _).append (ih (i + 1))

/-! ### The lists of both checks -/

section

variable (h : Hardens off on)
include h

/-- The errors without strictness are the strict ones without the undeclared variables. -/
theorem errors_eq : off.errors = on.errors.filter fun f => f.code ≠ "E009" := by
  induction h with
  | nil => rfl
  | @undeclared f off on hproblem hseverity _ ih =>
    have hcode := Finding.code_asError hproblem
    rw [Findings.errors_cons, Findings.errors_cons, if_neg (by simp [hseverity]),
      if_pos f.severity_asError, List.filter_cons_of_neg (by simp [hcode]), ih]
  | @other f off on hproblem _ ih =>
    obtain ⟨hcode, -⟩ := Finding.code_ne hproblem
    rw [Findings.errors_cons, Findings.errors_cons]
    split
    · rw [List.filter_cons_of_pos (by simpa using hcode), ih]
    · exact ih

/-- The strict warnings are the other ones without the undeclared variables. -/
theorem warnings_eq : on.warnings = off.warnings.filter fun f => f.code ≠ "W001" := by
  induction h with
  | nil => rfl
  | @undeclared f off on hproblem hseverity _ ih =>
    have hcode : f.code = "W001" := Finding.code_eq_W001_iff.mpr ⟨hproblem, hseverity⟩
    rw [Findings.warnings_cons, Findings.warnings_cons, if_neg (by simp),
      if_pos hseverity, List.filter_cons_of_neg (by simp [hcode]), ih]
  | @other f off on hproblem _ ih =>
    obtain ⟨-, hcode⟩ := Finding.code_ne hproblem
    rw [Findings.warnings_cons, Findings.warnings_cons]
    split
    · rw [List.filter_cons_of_pos (by simpa using hcode), ih]
    · exact ih

/-- The undeclared variables of both checks correspond to each other, in order. -/
theorem undeclared_eq : (on.errors.filter fun f => f.code = "E009") =
    (off.warnings.filter fun f => f.code = "W001").map Finding.asError := by
  induction h with
  | nil => rfl
  | @undeclared f off on hproblem hseverity _ ih =>
    have hcode := Finding.code_asError hproblem
    have hcode' : f.code = "W001" := Finding.code_eq_W001_iff.mpr ⟨hproblem, hseverity⟩
    rw [Findings.errors_cons, Findings.warnings_cons, if_pos f.severity_asError, if_pos hseverity,
      List.filter_cons_of_pos (by simp [hcode]), List.filter_cons_of_pos (by simp [hcode']),
      List.map_cons, ih]
  | @other f off on hproblem _ ih =>
    obtain ⟨hcode, hcode'⟩ := Finding.code_ne hproblem
    rw [Findings.errors_cons, Findings.warnings_cons]
    cases f.severity <;> simpa [hcode, hcode'] using ih

/-- Nothing at all is found by both checks or by none. -/
theorem isStrictlyValid_eq : on.isStrictlyValid = off.isStrictlyValid := by
  have hempty : ∀ fs : Findings, fs.isStrictlyValid = fs.isEmpty := by
    intro fs
    cases fs with
    | nil => rfl
    | cons f fs =>
      rw [Findings.isStrictlyValid, Findings.errors_cons, Findings.warnings_cons]
      cases f.severity <;> simp
  rw [hempty, hempty]
  cases h <;> rfl

/-- Without strictness there are no more errors. -/
theorem isValid_of_isValid (hvalid : on.isValid = true) : off.isValid = true := by
  rw [Findings.isValid, List.isEmpty_iff] at hvalid ⊢
  rw [h.errors_eq, hvalid, List.filter_nil]

end

end Hardens

/-! ### What is found in a document -/

theorem Transport.hardens_undeclaredFindings (location : String) (names declared : List String) :
    Hardens (undeclaredFindings false location names declared)
      (undeclaredFindings true location names declared) := by
  rw [undeclaredFindings, undeclaredFindings]
  induction names.filter fun n => !declared.contains n with
  | nil => exact .nil
  | cons n names ih => exact .undeclared rfl rfl ih

theorem Transport.hardens_findings (t : Transport) (place : String) :
    Hardens (t.findings false place) (t.findings true place) := by
  rw [findings, findings]
  cases t.kind.isNetwork <;> cases t.url
  · exact .nil
  · exact .error rfl
  · exact .error rfl
  · refine (Hardens.append ?_ (hardens_undeclaredFindings ..)).append (.same ?_)
    · split
      · exact .nil
      · exact .error rfl
    · intro f hf
      obtain ⟨n, -, rfl⟩ := List.mem_map.mp hf
      rfl

theorem hardens_remoteFindings (t : Transport) (place : String) :
    Hardens (remoteFindings t false place) (remoteFindings t true place) := by
  rw [remoteFindings, remoteFindings]
  split
  · exact .error rfl
  · exact t.hardens_findings place

/-- No problem of a package itself is an undeclared variable. -/
theorem Package.CanFind.isUndeclared {p : Package} {place : String} {f : Finding}
    (h : p.CanFind place f) : f.problem.isUndeclared = false := by
  cases h <;> rfl

theorem Package.hardens_findings (p : Package) (place : String) :
    Hardens (p.findings false place) (p.findings true place) := by
  rw [findings_eq, findings_eq]
  refine Hardens.append (.same ?_) ?_
  · intro f hf
    exact (canFind_of_mem_ownFindings hf).isUndeclared
  · rw [transportFindings, transportFindings]
    cases p.transport with
    | none => exact .nil
    | some t => exact t.hardens_findings _

namespace Server

/-- What is found in a server by a check that is not strict and by one that is. -/
theorem hardens_findings (s : Server) : Hardens (s.findings false) (s.findings true) := by
  refine (Hardens.append (.same ?_) (.elementFindings Package.hardens_findings 0 _)).append
    (.elementFindings hardens_remoteFindings 0 _)
  intro f hf
  split at hf
  · obtain rfl := Findings.mem_error_iff.mp hf
    rfl
  · cases hf

/-- **Strictness makes errors of the undeclared variables and changes nothing else.** The errors
without strictness are the strict ones without those of undeclared variables; the strict warnings
are the other ones without those; and the errors of undeclared variables are the warnings of them,
one by one and in order, where an error differs from its warning in severity and code only. -/
theorem strict_reclassifies (s : Server) :
    (s.findings false).errors = ((s.findings true).errors.filter fun f => f.code ≠ "E009") ∧
      (s.findings true).warnings = ((s.findings false).warnings.filter fun f => f.code ≠ "W001") ∧
      ((s.findings true).errors.filter fun f => f.code = "E009") =
        ((s.findings false).warnings.filter fun f => f.code = "W001").map Finding.asError ∧
      (∀ f : Finding, f.code = "W001" →
        f.asError.toJson = .obj (f.toJson.members.set "code" (.str "E009"))) ∧
      (s.findings true).isStrictlyValid = (s.findings false).isStrictlyValid ∧
      ((s.findings true).isValid = true → (s.findings false).isValid = true) := by
  have h := s.hardens_findings
  exact ⟨h.errors_eq, h.warnings_eq, h.undeclared_eq, fun _ => Finding.toJson_asError,
    h.isStrictlyValid_eq, h.isValid_of_isValid⟩

end Server

end Catalog
