import Catalog.Image.HostPolicy
import Catalog.Proofs.Except
import Catalog.Proofs.Text.Pattern
import Mathlib.Data.List.TakeWhile

/-!
# Hosts that a policy allows

A pattern is matched by following all the ways in which its stars can be filled at once. What is
found in this way is what is meant: a host matches just when it is the pattern with one or more
label characters in place of each star. Since neither a dot nor a colon is a label character, a
pattern is matched label by label, and its port by a port.

## Main definitions

* `HostPattern.Fills` — a text is obtained from a pattern by filling its stars.
* `HostPattern.normal`, `HostPattern.Fits` — a pattern as it is compared, and the hosts it is for.
* `HostPolicy.beforeColon` — a host without its port.

## Main results

* `HostPattern.covered_iff` — the search finds what is meant.
* `HostPattern.Fills.forall₂_fields` — a pattern is matched part by part.
* `HostPolicy.allows_iff_exists_fits` — an allowlist of several patterns.
* `HostPolicy.allowlist_exact` — **which hosts a pattern and an allowlist allow.**
-/

namespace Catalog

open Text

namespace HostPattern

variable {p : HostPattern} {c : Char} {ps cs rest : List Char} {text host : String}

/-! ### Filling the stars of a pattern -/

/-- The text is obtained from the pattern by putting one or more label characters in place of each
star. -/
inductive Fills : (pattern text : List Char) → Prop
  | nil : Fills [] []
  | char {c : Char} {ps cs : List Char} (hc : c ≠ '*') (h : Fills ps cs) :
    Fills (c :: ps) (c :: cs)
  | star {word ps cs : List Char} (hne : word ≠ []) (hword : ∀ c ∈ word, isLabelChar c = true)
    (h : Fills ps cs) : Fills ('*' :: ps) (word ++ cs)

theorem fills_nil_iff : Fills [] cs ↔ cs = [] := by
  constructor
  · rintro ⟨⟩
    rfl
  · rintro rfl
    exact .nil

theorem fills_char_iff (hc : c ≠ '*') : Fills (c :: ps) cs ↔ ∃ ds, cs = c :: ds ∧ Fills ps ds := by
  constructor
  · intro h
    cases h with
    | char _ h => exact ⟨_, rfl, h⟩
    | star => exact absurd rfl hc
  · rintro ⟨ds, rfl, h⟩
    exact .char hc h

theorem fills_star_iff : Fills ('*' :: ps) cs ↔
    ∃ word ds, word ≠ [] ∧ (∀ c ∈ word, isLabelChar c = true) ∧ cs = word ++ ds ∧ Fills ps ds := by
  constructor
  · intro h
    cases h with
    | char hc => exact absurd rfl hc
    | star hne hword h => exact ⟨_, _, hne, hword, rfl, h⟩
  · rintro ⟨word, ds, hne, hword, rfl, h⟩
    exact .star hne hword h

/-- A pattern without stars is matched by itself only. -/
theorem fills_iff_of_notMem (h : '*' ∉ ps) : Fills ps cs ↔ cs = ps := by
  induction ps generalizing cs with
  | nil => exact fills_nil_iff
  | cons c ps ih =>
    rw [List.mem_cons, not_or] at h
    rw [fills_char_iff (Ne.symm h.1)]
    simp [ih h.2]

/-! ### The search -/

/-- What may be left behind a star, which takes one or more label characters. -/
theorem mem_afterStar_iff : rest ∈ afterStar cs ↔
    ∃ word, word ≠ [] ∧ (∀ c ∈ word, isLabelChar c = true) ∧ cs = word ++ rest := by
  induction cs with
  | nil => simp [afterStar]
  | cons c cs ih =>
    rw [afterStar]
    constructor
    · intro h
      split at h
      · next hc =>
        rcases List.mem_cons.mp h with rfl | h
        · exact ⟨[c], by simp, by simpa using hc, rfl⟩
        · obtain ⟨word, -, hword, rfl⟩ := ih.mp h
          exact ⟨c :: word, by simp, List.forall_mem_cons.mpr ⟨hc, hword⟩, rfl⟩
      · cases h
    · rintro ⟨word, hne, hword, heq⟩
      obtain ⟨d, word, rfl⟩ := List.exists_cons_of_ne_nil hne
      obtain ⟨rfl, rfl⟩ := List.cons.inj heq
      obtain ⟨hd, hword⟩ := List.forall_mem_cons.mp hword
      rw [if_pos hd]
      by_cases hlast : word = []
      · subst hlast
        exact List.mem_cons_self
      · exact List.mem_cons_of_mem _ (ih.mpr ⟨word, hlast, hword, rfl⟩)

/-- What may be left behind a pattern: the rest of one of the texts, behind a front that is obtained
from the pattern. -/
theorem mem_leftovers_iff {texts : List (List Char)} : rest ∈ leftovers ps texts ↔
    ∃ cs ∈ texts, ∃ front, Fills ps front ∧ cs = front ++ rest := by
  induction ps generalizing texts with
  | nil => simp [leftovers, fills_nil_iff]
  | cons c ps ih =>
    rw [leftovers, ih]
    by_cases hc : c = '*'
    · subst hc
      simp only [if_pos, List.mem_eraseDups, List.mem_flatMap, mem_afterStar_iff, fills_star_iff]
      constructor
      · rintro ⟨_, ⟨cs, hcs, word, hne, hword, rfl⟩, front, hfront, rfl⟩
        exact ⟨_, hcs, _, ⟨word, front, hne, hword, rfl, hfront⟩, (List.append_assoc ..).symm⟩
      · rintro ⟨_, hcs, _, ⟨word, front, hne, hword, rfl, hfront⟩, rfl⟩
        exact ⟨_, ⟨_, hcs, word, hne, hword, List.append_assoc ..⟩, front, hfront, rfl⟩
    · simp only [if_neg hc, List.mem_filterMap, afterFront?_eq_some_iff, fills_char_iff hc]
      constructor
      · rintro ⟨_, ⟨cs, hcs, rfl⟩, front, hfront, rfl⟩
        exact ⟨_, hcs, c :: front, ⟨front, rfl, hfront⟩, rfl⟩
      · rintro ⟨_, hcs, _, ⟨front, rfl, hfront⟩, rfl⟩
        exact ⟨_, ⟨_, hcs, rfl⟩, front, hfront, rfl⟩

/-- **The search finds what is meant.** -/
theorem covered_iff : covered ps cs = true ↔ Fills ps cs := by
  rw [covered, List.contains_iff_mem, mem_leftovers_iff]
  simp

instance (ps cs : List Char) : Decidable (Fills ps cs) := decidable_of_iff _ covered_iff

/-! ### The parts of a pattern -/

/-- Neither a dot nor a colon is a label character. -/
theorem isLabelChar_eq_false (hc : c = '.' ∨ c = ':') : isLabelChar c = false := by
  rcases hc with rfl | rfl <;> decide

theorem forall₂_modifyHead {R : List Char → List Char → Prop} {f g : List Char → List Char}
    {as bs : List (List Char)} (h : List.Forall₂ R as bs) (hR : ∀ a b, R a b → R (f a) (g b)) :
    List.Forall₂ R (as.modifyHead f) (bs.modifyHead g) := by
  cases h with
  | nil => exact .nil
  | cons hhead htail => exact .cons (hR _ _ hhead) htail

/-- **A pattern is matched part by part**, where the parts are divided by a character that is no
label character. -/
theorem Fills.forall₂_fields (h : Fills ps cs) (hc : isLabelChar c = false) (hstar : c ≠ '*') :
    List.Forall₂ Fills (fields c ps) (fields c cs) := by
  induction h with
  | nil => exact .cons .nil .nil
  | @char d ps cs hd _ ih =>
    by_cases heq : d = c
    · subst heq
      rw [fields_cons_self, fields_cons_self]
      exact .cons .nil ih
    · -- the character belongs to the first part of both
      rw [fields_cons_of_ne heq, fields_cons_of_ne heq]
      exact forall₂_modifyHead ih fun _ _ hfirst => .char hd hfirst
  | @star word ps cs hne hword _ ih =>
    have hnot : c ∉ word := fun hmem => by
      rw [hword c hmem] at hc
      cases hc
    rw [fields_cons_of_ne (Ne.symm hstar), fields_append_of_notMem hnot]
    exact forall₂_modifyHead ih fun _ _ hfirst => .star hne hword hfirst

/-- A pattern with a colon is matched by a text with a colon: what is before it and what is behind
it. -/
theorem Fills.exists_of_colon {name port : List Char} (h : Fills (name ++ ':' :: port) cs)
    (hname : ':' ∉ name) (hport : ':' ∉ port) :
    ∃ name' port', cs = name' ++ ':' :: port' ∧ ':' ∉ name' ∧ Fills port port' := by
  have hparts := h.forall₂_fields (isLabelChar_eq_false (.inr rfl)) (by decide)
  rw [fields_append_cons hname, fields_of_notMem hport] at hparts
  obtain ⟨name', others, -, hothers, hcs⟩ := List.forall₂_cons_left_iff.mp hparts
  obtain ⟨port', none, hport', hnone, rfl⟩ := List.forall₂_cons_left_iff.mp hothers
  obtain rfl := List.forall₂_nil_left_iff.mp hnone
  refine ⟨name', port', ?_, notMem_of_mem_fields (by rw [hcs]; exact List.mem_cons_self), hport'⟩
  rw [← intercalate_fields ':' cs, hcs]
  simp

/-! ### Patterns and hosts -/

/-- A pattern as it is compared: without blanks around it, in lowercase. -/
def normal (text : String) : String := asciiLowercase (trim text)

/-- The host, whatever the case of its letters, is the pattern with one or more label characters in
place of each star. -/
def Fits (text host : String) : Prop := Fills (normal text).toList (asciiLowercase host).toList

instance (text host : String) : Decidable (Fits text host) :=
  inferInstanceAs (Decidable (Fills (normal text).toList (asciiLowercase host).toList))

theorem parse_eq_ok_iff :
    parse text = .ok p ↔ isPattern (normal text).toList = true ∧ p = ⟨normal text⟩ := by
  rw [parse, ← normal]
  split <;> simp [*, eq_comm]

/-- **A pattern covers the hosts that it is meant for.** -/
theorem covers_iff_fits (h : parse text = .ok p) : p.covers host = true ↔ Fits text host := by
  obtain ⟨-, rfl⟩ := parse_eq_ok_iff.mp h
  rw [covers, covered_iff, Fits]

/-- The port of a pattern consists of digits. -/
theorem isDigit_of_mem_port {name port : List Char} (h : isPattern (name ++ ':' :: port) = true)
    (hname : ':' ∉ name) : ∀ c ∈ port, c.isDigit = true := by
  rw [isPattern, cutFirst_eq_some_iff.mpr ⟨hname, rfl⟩] at h
  simp only [Bool.and_eq_true, List.all_eq_true] at h
  exact h.2

end HostPattern

namespace HostPolicy

open HostPattern

variable {texts : List String} {text host : String}

/-! ### Hosts and their ports -/

/-- The part of a host before its first colon. -/
def beforeColon (host : String) : String := String.ofList (host.toList.takeWhile (· != ':'))

theorem beforeColon_eq {name rest : List Char} (hhost : host.toList = name ++ ':' :: rest)
    (hname : ':' ∉ name) : beforeColon host = String.ofList name := by
  have hall : ∀ c ∈ name, (c != ':') = true := fun c hc => by
    rw [bne_iff_ne]
    rintro rfl
    exact hname hc
  rw [beforeColon, hhost, List.takeWhile_append_of_pos hall]
  simp

theorem beforeColon_of_notMem (h : ':' ∉ host.toList) : beforeColon host = host := by
  rw [beforeColon, List.takeWhile_eq_self_iff.mpr, String.ofList_toList]
  intro c hc
  rw [bne_iff_ne]
  rintro rfl
  exact h hc

theorem withoutPort_eq (host : String) : withoutPort host = beforeColon host := by
  rw [withoutPort]
  split
  · next name rest hcut =>
    obtain ⟨hname, hhost⟩ := cutFirst_eq_some_iff.mp hcut
    exact (beforeColon_eq hhost hname).symm
  · next hcut => exact (beforeColon_of_notMem (cutFirst_eq_none_iff.mp hcut)).symm

/-- In lowercase, a host has a colon at the same places. -/
theorem exists_of_asciiLowercase_eq {name port : List Char}
    (h : (asciiLowercase host).toList = name ++ ':' :: port) (hname : ':' ∉ name) :
    ∃ name' port', host.toList = name' ++ ':' :: port' ∧ ':' ∉ name' ∧
      name'.map Char.toLower = name ∧ port'.map Char.toLower = port := by
  rw [asciiLowercase, String.toList_map] at h
  obtain ⟨name', rest, hhost, hname', hrest⟩ := List.map_eq_append_iff.mp h
  obtain ⟨c, port', rfl, hc, hport'⟩ := List.map_eq_cons_iff.mp hrest
  obtain rfl := (toLower_eq_iff (by decide)).mp hc
  refine ⟨name', port', hhost, ?_, hname', hport'⟩
  rwa [← mem_map_toLower_iff (by decide), hname']

/-! ### Allowlists -/

/-- An allowlist of accepted patterns allows the hosts that one of them is meant for, with their
ports or without. -/
theorem allows_iff_exists_fits (h : ∀ text ∈ texts, ∃ p, HostPattern.parse text = .ok p) :
    ∃ policy, allowlist texts = .ok policy ∧ ∀ host, policy.allows host = true ↔
      ∃ text ∈ texts, Fits text host ∨ Fits text (beforeColon host) := by
  have hparse : ∀ text ∈ texts, HostPattern.parse text = .ok ⟨normal text⟩ := by
    intro text htext
    obtain ⟨p, hp⟩ := h text htext
    rw [hp, (parse_eq_ok_iff.mp hp).2]
  refine ⟨⟨.allowlist, texts.map fun text => ⟨normal text⟩⟩, ?_, fun host => ?_⟩
  · rw [allowlist, mapM_eq_ok_map hparse]
    rfl
  · simp only [allows, List.any_map, List.any_eq_true, Function.comp, Bool.or_eq_true,
      withoutPort_eq]
    refine exists_congr fun text => and_congr_right fun htext => ?_
    rw [covers_iff_fits (hparse text htext), covers_iff_fits (hparse text htext)]

/-- An allowlist of one accepted pattern. -/
theorem allowlist_singleton {p : HostPattern} (h : HostPattern.parse text = .ok p) :
    ∃ policy, allowlist [text] = .ok policy ∧
      ∀ host, policy.allows host = true ↔ Fits text host ∨ Fits text (beforeColon host) := by
  have hsingle : ∀ t ∈ [text], ∃ p, HostPattern.parse t = .ok p := by simpa using ⟨p, h⟩
  simpa using allows_iff_exists_fits hsingle

/-- A pattern without stars and without a port is for one host only, on every port. -/
theorem fits_iff_of_plain (hstar : '*' ∉ (normal text).toList)
    (hcolon : ':' ∉ (normal text).toList) :
    Fits text host ∨ Fits text (beforeColon host) ↔
      asciiLowercase host = normal text ∨
        ∃ name rest, host = name ++ ":" ++ rest ∧ asciiLowercase name = normal text := by
  rw [Fits, Fits, fills_iff_of_notMem hstar, fills_iff_of_notMem hstar, String.toList_inj,
    String.toList_inj]
  constructor
  · rintro (h | h)
    · exact .inl h
    · cases hcut : cutFirst ':' host.toList with
      | none =>
        rw [beforeColon_of_notMem (cutFirst_eq_none_iff.mp hcut)] at h
        exact .inl h
      | some parts =>
        obtain ⟨name, rest⟩ := parts
        obtain ⟨hname, hhost⟩ := cutFirst_eq_some_iff.mp hcut
        rw [beforeColon_eq hhost hname] at h
        refine .inr ⟨String.ofList name, String.ofList rest, ?_, h⟩
        rw [← String.toList_inj, hhost]
        simp
  · rintro (h | ⟨name, rest, rfl, h⟩)
    · exact .inl h
    · right
      have hname : ':' ∉ name.toList := by
        rw [← mem_map_toLower_iff (by decide), ← String.toList_map, ← asciiLowercase, h]
        exact hcolon
      have hhost : (name ++ ":" ++ rest).toList = name.toList ++ ':' :: rest.toList := by simp
      rw [beforeColon_eq hhost hname, String.ofList_toList, h]

/-- A pattern with a port is for hosts with that port. -/
theorem exists_cutFirst_of_fits {name port : List Char} (hpattern : isPattern (normal text).toList)
    (hcut : cutFirst ':' (normal text).toList = some (name, port)) (h : Fits text host) :
    ∃ name', cutFirst ':' host.toList = some (name', port) := by
  obtain ⟨hname, heq⟩ := cutFirst_eq_some_iff.mp hcut
  rw [heq] at hpattern
  have hdigits := isDigit_of_mem_port hpattern hname
  have hnot : ∀ c, c.isDigit = false → c ∉ port := fun c hc hmem => by
    rw [hdigits c hmem] at hc
    cases hc
  rw [Fits, heq] at h
  obtain ⟨lowerName, lowerPort, hlower, hlowerName, hport⟩ :=
    h.exists_of_colon hname (hnot ':' (by decide))
  obtain rfl := (fills_iff_of_notMem (hnot '*' (by decide))).mp hport
  obtain ⟨name', port', hhost, hname', -, hport'⟩ :=
    exists_of_asciiLowercase_eq hlower hlowerName
  obtain rfl := eq_of_map_toLower_eq hport' fun c hc => isAlpha_of_isDigit (hdigits c hc)
  exact ⟨name', cutFirst_eq_some_iff.mpr ⟨hname', hhost⟩⟩

/-- There is no colon before the first one. -/
theorem colon_notMem_beforeColon (host : String) : ':' ∉ (beforeColon host).toList := by
  rw [beforeColon, String.toList_ofList]
  intro h
  simpa using List.mem_takeWhile_imp h

/-- **Which hosts are allowed.** A pattern covers the hosts that are obtained from it by filling its
stars. An allowlist of accepted patterns allows the hosts that one of them covers, with what is
behind their first colon or without it. So a host is matched label by label, and its port by the
port; a pattern without stars and without a port allows one host on every port; and a pattern with
a port allows no host with another port, or with none. -/
theorem allowlist_exact :
    (∀ text p host, HostPattern.parse text = .ok p → (p.covers host = true ↔ Fits text host)) ∧
    (∀ texts, (∀ text ∈ texts, ∃ p, HostPattern.parse text = .ok p) →
      ∃ policy, allowlist texts = .ok policy ∧ ∀ host, policy.allows host = true ↔
        ∃ text ∈ texts, Fits text host ∨ Fits text (beforeColon host)) ∧
    (∀ text host c, Fits text host → c = '.' ∨ c = ':' →
      List.Forall₂ Fills (fields c (normal text).toList)
        (fields c (asciiLowercase host).toList)) ∧
    ∀ text p, HostPattern.parse text = .ok p → ∃ policy, allowlist [text] = .ok policy ∧
      ∀ host,
        ('*' ∉ (normal text).toList → ':' ∉ (normal text).toList →
          (policy.allows host = true ↔ asciiLowercase host = normal text ∨
            ∃ name rest, host = name ++ ":" ++ rest ∧ asciiLowercase name = normal text)) ∧
        ∀ name port, cutFirst ':' (normal text).toList = some (name, port) →
          policy.allows host = true → ∃ name', cutFirst ':' host.toList = some (name', port) := by
  refine ⟨fun text p host => covers_iff_fits, fun texts => allows_iff_exists_fits, ?_, ?_⟩
  · intro text host c h hc
    have hstar : c ≠ '*' := by rcases hc with rfl | rfl <;> decide
    exact h.forall₂_fields (isLabelChar_eq_false hc) hstar
  · intro text p hp
    obtain ⟨policy, hpolicy, hallows⟩ := allowlist_singleton hp
    refine ⟨policy, hpolicy, fun host => ⟨?_, ?_⟩⟩
    · intro hstar hcolon
      rw [hallows, fits_iff_of_plain hstar hcolon]
    · intro name port hcut h
      have hpattern := (parse_eq_ok_iff.mp hp).1
      rcases (hallows host).mp h with hfits | hfits
      · exact exists_cutFirst_of_fits hpattern hcut hfits
      · -- a host without its port has no port to match
        obtain ⟨name', hcut'⟩ := exists_cutFirst_of_fits hpattern hcut hfits
        obtain ⟨-, heq⟩ := cutFirst_eq_some_iff.mp hcut'
        exact absurd (by rw [heq]; simp) (colon_notMem_beforeColon host)

/-- A pattern with a star, and one with a port and with blanks around it. -/
def pinnedHosts : List String := ["*-docker.pkg.dev", " Localhost:5000 "]

theorem allowlist_exact_pinnedHosts :
    ∃ policy, allowlist pinnedHosts = .ok policy ∧
      policy.allows "US-docker.pkg.dev:443" = true ∧ policy.allows "LOCALHOST:5000" = true ∧
      policy.allows "localhost:6000" = false ∧ policy.allows "a.b-docker.pkg.dev" = false := by
  have haccepted : ∀ text ∈ pinnedHosts, isPattern (normal text).toList = true := by
    decide +kernel
  obtain ⟨policy, hpolicy, hallows⟩ := allowlist_exact.2.1 pinnedHosts fun text htext =>
    ⟨_, parse_eq_ok_iff.mpr ⟨haccepted text htext, rfl⟩⟩
  refine ⟨policy, hpolicy, ?_, ?_, ?_, ?_⟩
  · rw [hallows]
    decide +kernel
  · rw [hallows]
    decide +kernel
  · rw [Bool.eq_false_iff, ne_eq, hallows]
    decide +kernel
  · rw [Bool.eq_false_iff, ne_eq, hallows]
    decide +kernel

end HostPolicy

end Catalog
