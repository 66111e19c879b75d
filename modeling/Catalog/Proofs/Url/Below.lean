import Catalog.Proofs.Except
import Catalog.Proofs.Url.Path
import Catalog.Settings.Basic
import Mathlib.Data.List.TakeWhile

/-!
# URLs below a base URL

What is read from the base URL of a web server followed by a slash and another text. The front up to
the host does not depend on that text. Unless the base URL has a query or a fragment, which take in
all that follows, the text is read as a path after the segments of the base URL.

## Main definitions

* `pathPart` — the part of a text that belongs to the path.
* `suffixPart` — what is read of a text at the end of a URL as a part of its path.

## Main results

* `suffixPart_eq_self_iff` — when a text is read as a whole.
* `parseAuthority_path` — the path of a URL with an authority.
* `exists_path_below` — **what is read below a base URL.**
-/

namespace Catalog.Url

open Text

variable {p : Char → Bool} {c : Char} {a b cs : List Char}

/-! ### Fronts and backs -/

/-- What ends the front of a text hides all that follows. -/
theorem takeWhile_append_cons (h : p c = false) :
    (a ++ c :: b).takeWhile p = a.takeWhile p := by
  induction a with
  | nil => simp [h]
  | cons d a ih => rw [List.cons_append, List.takeWhile_cons, List.takeWhile_cons, ih]

theorem dropWhile_append_cons (h : p c = false) :
    (a ++ c :: b).dropWhile p = a.dropWhile p ++ c :: b := by
  rw [List.dropWhile_append]
  split
  · rename_i hnil
    rw [List.isEmpty_iff.mp hnil, List.dropWhile_cons_of_neg (by simp [h])]
    rfl
  · rfl

/-- A character that is not stripped hides all before it. -/
theorem stripBack_append_cons (h : p c = false) :
    stripBack p (a ++ c :: b) = a ++ c :: stripBack p b := by
  rw [stripBack, List.reverse_append, List.reverse_cons, List.append_assoc, List.singleton_append,
    dropWhile_append_cons h]
  simp [stripBack]

/-- Nothing before a character that stays is stripped. -/
theorem stripBack_append (h : c ∈ b) (hc : p c = false) :
    stripBack p (a ++ b) = a ++ stripBack p b := by
  obtain ⟨b₁, b₂, rfl⟩ := List.append_of_mem h
  rw [stripBack_append_cons hc, ← List.append_assoc, stripBack_append_cons hc, List.append_assoc]

theorem stripBack_sublist (p : Char → Bool) (cs : List Char) : (stripBack p cs).Sublist cs := by
  have h := (List.dropWhile_sublist p (l := cs.reverse)).reverse
  rwa [List.reverse_reverse] at h

theorem mem_dropWhile_iff (h : p c = false) : c ∈ cs.dropWhile p ↔ c ∈ cs := by
  refine ⟨fun hc => (List.dropWhile_sublist p).mem hc, fun hc => ?_⟩
  rw [← List.takeWhile_append_dropWhile (p := p) (l := cs), List.mem_append] at hc
  refine hc.resolve_left fun hc => ?_
  rw [List.mem_takeWhile_imp hc] at h
  cases h

theorem mem_stripBack_iff (h : p c = false) : c ∈ stripBack p cs ↔ c ∈ cs := by
  rw [stripBack, List.mem_reverse, mem_dropWhile_iff h, List.mem_reverse]

theorem stripBack_eq_self_iff :
    stripBack p cs = cs ↔ ∀ c ∈ cs.getLast?, p c = false := by
  rw [stripBack, List.reverse_eq_iff, ← List.head?_reverse]
  cases cs.reverse with
  | nil => simp
  | cons d ds =>
    rw [List.dropWhile_cons]
    cases h : p d with
    | false => simp [h]
    | true =>
      have hlen : (ds.dropWhile p).length ≤ ds.length := (List.dropWhile_sublist p).length_le
      simp only [if_true, List.head?_cons, Option.mem_def, Option.some.injEq, forall_eq', h]
      constructor
      · intro heq
        rw [heq, List.length_cons] at hlen
        omega
      · nofun

/-! ### The path of a URL -/

/-- A character that does not end the path of a URL. -/
def isPathChar (c : Char) : Bool := !(c == '?' || c == '#')

theorem isPathChar_eq_false_iff : isPathChar c = false ↔ c = '?' ∨ c = '#' := by
  rw [isPathChar, Bool.not_eq_false', Bool.or_eq_true, beq_iff_eq, beq_iff_eq]

/-- The part of a text that belongs to the path. -/
def pathPart (cs : List Char) : List Char := cs.takeWhile isPathChar

/-- The part before the first occurrence of a character. -/
theorem takeWhile_bne_eq (c : Char) (cs : List Char) :
    cs.takeWhile (· != c) = (cutFirst c cs).elim cs Prod.fst := by
  cases hcut : cutFirst c cs with
  | none =>
    refine List.takeWhile_eq_self_iff.mpr fun d hd => ?_
    exact bne_iff_ne.mpr fun h => cutFirst_eq_none_iff.mp hcut (h ▸ hd)
  | some parts =>
    obtain ⟨a, b⟩ := parts
    obtain ⟨ha, rfl⟩ := cutFirst_eq_some_iff.mp hcut
    rw [takeWhile_append_cons (by simp), List.takeWhile_eq_self_iff.mpr]
    · rfl
    · exact fun d hd => bne_iff_ne.mpr fun h => ha (h ▸ hd)

/-- What stands before the query and the fragment is the path. -/
theorem fst_cutQuery_cutFragment (special : Bool) (cs : List Char) :
    (cutQuery special (cutFragment cs).1).1 = pathPart cs := by
  have hfragment : (cutFragment cs).1 = cs.takeWhile (· != '#') := by
    rw [takeWhile_bne_eq, cutFragment]
    cases cutFirst '#' cs <;> rfl
  have hquery : ∀ ds, (cutQuery special ds).1 = ds.takeWhile (· != '?') := fun ds => by
    rw [takeWhile_bne_eq, cutQuery]
    cases cutFirst '?' ds <;> rfl
  rw [hquery, hfragment, List.takeWhile_takeWhile, pathPart]
  congr 1
  funext c
  simp only [isPathChar, bne, Bool.not_eq_true', beq_eq_false_iff_ne, ne_eq, Bool.not_or,
    Bool.decide_and, decide_not]
  rfl

/-- The text after a host that a port is read from is a part of the authority. -/
theorem mem_of_mem_spanHost {inBrackets : Bool} (h : c ∈ (spanHost inBrackets cs).2) : c ∈ cs := by
  induction cs generalizing inBrackets with
  | nil => cases h
  | cons d cs ih =>
    rw [spanHost] at h
    split at h
    · exact h
    · exact List.mem_cons_of_mem d (ih h)

theorem mem_of_cutCredentials {authority rest host : List Char} {credentials : Credentials}
    (hcut : cutCredentials authority rest = .ok (credentials, host)) (h : c ∈ host) :
    c ∈ authority := by
  unfold cutCredentials at hcut
  split at hcut
  · cases hcut
    exact h
  · rename_i front back hlast
    split at hcut
    · cases hcut
    · cases hcut
      rw [(cutLast_eq_some_iff.mp hlast).2]
      exact List.mem_append_right _ (List.mem_cons_of_mem _ h)

/-- The credentials do not depend on what follows, as long as anything does. -/
theorem cutCredentials_congr {authority : List Char} (ha : a ≠ []) (hb : b ≠ []) :
    cutCredentials authority a = cutCredentials authority b := by
  unfold cutCredentials
  rw [List.isEmpty_eq_false_iff.mpr ha, List.isEmpty_eq_false_iff.mpr hb]

/-- Without a backslash, nothing is left behind a port. -/
theorem eq_nil_of_readPort {scheme : String} {port : Option Nat} {rest : List Char}
    (hread : readPort scheme cs = .ok (port, rest)) (h : '\\' ∉ cs) : rest = [] := by
  cases cs with
  | nil =>
    cases hread
    rfl
  | cons d cs =>
    have hdrop : cs.dropWhile (· != '\\') = [] := List.dropWhile_eq_nil_iff.mpr fun e he =>
      bne_iff_ne.mpr fun heq => h (List.mem_cons_of_mem d (heq ▸ he))
    simp only [readPort, hdrop] at hread
    split at hread
    · cases hread
    · split at hread
      · cases hread
      · split at hread <;> cases hread <;> rfl

/-- The text before a path of a web address. -/
def authorityOf (cs : List Char) : List Char := cs.takeWhile fun c => !endsAuthority true c

/-- The text after the host and the port of a web address. -/
def afterAuthority (cs : List Char) : List Char := cs.dropWhile fun c => !endsAuthority true c

theorem backslash_notMem_authorityOf (cs : List Char) : '\\' ∉ authorityOf cs := fun h => by
  cases List.mem_takeWhile_imp h

/-- What a web address is read as. -/
theorem parseAuthority_eq_ok_iff {scheme : String} (hs : isSpecial scheme = true) {u : Url} :
    parseAuthority scheme cs = .ok u ↔
      ∃ credentials name, cutCredentials (authorityOf cs) (afterAuthority cs) =
          .ok (credentials, name) ∧
        ∃ host, readHost true credentials (spanHost false name).1
            (!(spanHost false name).2.isEmpty) = .ok host ∧
          ∃ port rest, readPort scheme (spanHost false name).2 = .ok (port, rest) ∧
            u = ⟨scheme, credentials.user, credentials.password, host, port,
              readPath true (pathPart (rest ++ afterAuthority cs)),
              (cutQuery true (cutFragment (rest ++ afterAuthority cs)).1).2,
              (cutFragment (rest ++ afterAuthority cs)).2⟩ := by
  unfold parseAuthority
  simp only [hs, bind_eq_ok_iff, Prod.exists, ← fst_cutQuery_cutFragment true, authorityOf,
    afterAuthority, pure, Except.pure, Except.ok.injEq, eq_comm (a := u)]

/-- The path of a web address is read after its authority. -/
theorem parseAuthority_path {scheme : String} (hs : isSpecial scheme = true) {u : Url}
    (h : parseAuthority scheme cs = .ok u) :
    u.path = readPath true (pathPart (afterAuthority cs)) := by
  obtain ⟨credentials, name, hcut, host, -, port, rest, hport, rfl⟩ :=
    (parseAuthority_eq_ok_iff hs).mp h
  have hback : '\\' ∉ (spanHost false name).2 := fun hmem =>
    backslash_notMem_authorityOf cs (mem_of_cutCredentials hcut (mem_of_mem_spanHost hmem))
  rw [eq_nil_of_readPort hport hback]
  rfl

/-- Whether there is a host to read does not depend on what follows it, as long as anything does. -/
theorem exists_parseAuthority_congr {scheme : String} (hs : isSpecial scheme = true)
    (hauthority : authorityOf a = authorityOf b) (ha : afterAuthority a ≠ [])
    (hb : afterAuthority b ≠ []) (h : ∃ u, parseAuthority scheme a = .ok u) :
    ∃ u, parseAuthority scheme b = .ok u := by
  obtain ⟨u, hu⟩ := h
  obtain ⟨credentials, name, hcut, host, hhost, port, rest, hport, -⟩ :=
    (parseAuthority_eq_ok_iff hs).mp hu
  rw [hauthority, cutCredentials_congr ha hb] at hcut
  exact ⟨_, (parseAuthority_eq_ok_iff hs).mpr
    ⟨credentials, name, hcut, host, hhost, port, rest, hport, rfl⟩⟩

/-! ### The text of a URL -/

/-- A character that is taken off the ends of the text of a URL. -/
def isEdge (c : Char) : Bool := c.toNat ≤ 0x20

/-- A character that is left in the text of a URL. -/
def isLeft (c : Char) : Bool := !(['\t', '\n', '\r'].contains c)

/-- What is read of a text at the end of a URL. -/
def cleanedBack (cs : List Char) : List Char := (stripBack isEdge cs).filter isLeft

theorem cleanedBack_append_slash (a b : List Char) :
    cleanedBack (a ++ '/' :: b) = a.filter isLeft ++ '/' :: cleanedBack b := by
  rw [cleanedBack, stripBack_append_cons rfl, List.filter_append]
  rfl

/-- A character that counts as a slash in a web address. -/
def isSlash (c : Char) : Bool := c == '/' || c == '\\'

/-- The schemes of web servers, as they stand at the front of a base URL. -/
def IsWebScheme (scheme : String) : Prop := scheme = "http" ∨ scheme = "https"

theorem IsWebScheme.isSpecial {scheme : String} (hs : IsWebScheme scheme) :
    isSpecial scheme = true := by
  rcases hs with rfl | rfl <;> rfl

/-- Nothing is taken off the front of a web address. -/
theorem cleaned_web {scheme text : String} (hs : IsWebScheme scheme)
    (h : text.toList = scheme.toList ++ ':' :: '/' :: '/' :: cs) :
    cleaned text = scheme.toList ++ ':' :: '/' :: '/' :: cleanedBack cs := by
  have hfront : ∀ d ds, scheme.toList ++ [':', '/'] = d :: ds → isEdge d = false := by
    rcases hs with rfl | rfl <;> rintro d ds ⟨⟩ <;> rfl
  obtain ⟨d, ds, hd⟩ := List.exists_cons_of_ne_nil
    (List.append_ne_nil_of_right_ne_nil scheme.toList (List.cons_ne_nil ':' ['/']))
  have htext : text.toList = d :: ds ++ '/' :: cs := by rw [← hd, h]; simp
  have hstrip : stripChars isEdge text.toList = d :: ds ++ '/' :: stripBack isEdge cs := by
    rw [stripChars, htext, List.cons_append, List.dropWhile_cons_of_neg (by simp [hfront d ds hd])]
    exact stripBack_append_cons (a := d :: ds) rfl
  have hleft : (d :: ds).filter isLeft = scheme.toList ++ [':', '/'] := by
    rw [← hd]
    rcases hs with rfl | rfl <;> rfl
  change (stripChars isEdge text.toList).filter isLeft = _
  rw [hstrip, List.filter_append, hleft, List.append_assoc]
  rfl

/-- A web address is read after the slashes behind its scheme. -/
theorem parse_web {scheme text : String} (hs : IsWebScheme scheme)
    (h : text.toList = scheme.toList ++ ':' :: '/' :: '/' :: cs) :
    parse text = parseAuthority scheme ((cleanedBack cs).dropWhile isSlash) := by
  have hcolon : cutFirst ':' (scheme.toList ++ ':' :: '/' :: '/' :: cleanedBack cs) =
      some (scheme.toList, '/' :: '/' :: cleanedBack cs) := by
    refine cutFirst_eq_some_iff.mpr ⟨?_, rfl⟩
    rcases hs with rfl | rfl <;> decide
  have hcut : cutScheme (cleaned text) = some (scheme, '/' :: '/' :: cleanedBack cs) := by
    simp only [cutScheme, cleaned_web hs h, hcolon]
    rcases hs with rfl | rfl <;> rfl
  simp only [parse, hcut]
  rcases hs with rfl | rfl <;> rfl

/-- A web address with a host is read after the slashes behind its scheme, up to where another text
follows. -/
theorem parse_web_append_slash {scheme text : String} (hs : IsWebScheme scheme)
    (h : text.toList = scheme.toList ++ ':' :: '/' :: '/' :: (a ++ '/' :: b)) (hc : c ∈ a)
    (hleft : isLeft c = true) (hslash : isSlash c = false) :
    parse text =
      parseAuthority scheme ((a.filter isLeft).dropWhile isSlash ++ '/' :: cleanedBack b) := by
  have hhost : (a.filter isLeft).dropWhile isSlash ≠ [] :=
    List.ne_nil_of_mem ((mem_dropWhile_iff hslash).mpr (List.mem_filter.mpr ⟨hc, hleft⟩))
  rw [parse_web hs h, cleanedBack_append_slash, List.dropWhile_append,
    if_neg (by simpa using hhost)]

/-- The text that follows the slashes of a base URL. -/
theorem exists_toList_eq {base : String} (h : Settings.isWebUrl base = true) :
    ∃ scheme rest, IsWebScheme scheme ∧
      base.toList = scheme.toList ++ ':' :: '/' :: '/' :: rest := by
  obtain ⟨hfront, -⟩ := Bool.and_eq_true_iff.mp h
  rcases Bool.or_eq_true_iff.mp hfront with hfront | hfront
  · obtain ⟨rest, hrest⟩ := List.isPrefixOf_iff_prefix.mp hfront
    exact ⟨"https", rest, .inr rfl, hrest.symm⟩
  · obtain ⟨rest, hrest⟩ := List.isPrefixOf_iff_prefix.mp hfront
    exact ⟨"http", rest, .inl rfl, hrest.symm⟩

/-- What is read below a base URL: an authority that starts in the base URL. -/
theorem exists_parse_eq {base : String} (h : Settings.isWebUrl base = true) :
    ∃ (scheme : String) (front : List Char), IsWebScheme scheme ∧
      (∀ c, isPathChar c = false → (c ∈ front ↔ c ∈ base.toList)) ∧
      ∀ cs, parse (dropTrailingSlashes base ++ String.ofList ('/' :: cs)) =
        parseAuthority scheme (front ++ '/' :: cleanedBack cs) := by
  obtain ⟨scheme, rest, hs, hbase⟩ := exists_toList_eq h
  -- there is a host in the base URL itself, as the base URL can be read
  obtain ⟨d, hd, hslash⟩ : ∃ d ∈ cleanedBack rest, isSlash d = false := by
    by_contra hnone
    have hnil : (cleanedBack rest).dropWhile isSlash = [] := List.dropWhile_eq_nil_iff.mpr
      fun d hd => Bool.of_not_eq_false fun hslash => hnone ⟨d, hd, hslash⟩
    have hok := (Bool.and_eq_true_iff.mp h).2
    rw [parse_web hs hbase, hnil] at hok
    rcases hs with rfl | rfl <;> cases hok
  have hleft : isLeft d = true := List.of_mem_filter hd
  have hne : (d == '/') = false := (Bool.or_eq_false_iff.mp hslash).1
  have hrest : d ∈ rest := (stripBack_sublist _ rest).mem (List.mem_of_mem_filter hd)
  have htext : ∀ cs, (dropTrailingSlashes base ++ String.ofList ('/' :: cs)).toList =
      scheme.toList ++ ':' :: '/' :: '/' :: (stripBack (· == '/') rest ++ '/' :: cs) := by
    intro cs
    have hback : stripBack (· == '/') ((scheme.toList ++ [':', '/', '/']) ++ rest) =
        (scheme.toList ++ [':', '/', '/']) ++ stripBack (· == '/') rest :=
      stripBack_append hrest hne
    rw [String.toList_append, String.toList_ofList, dropTrailingSlashes, String.toList_ofList,
      hbase]
    simp only [List.append_assoc, List.cons_append, List.nil_append] at hback ⊢
    rw [hback]
    simp
  refine ⟨scheme, ((stripBack (· == '/') rest).filter isLeft).dropWhile isSlash, hs, ?_, fun cs =>
    parse_web_append_slash hs (htext cs) ((mem_stripBack_iff (p := (· == '/')) hne).mpr hrest) hleft
      hslash⟩
  intro c hc
  have hsigns := isPathChar_eq_false_iff.mp hc
  rw [mem_dropWhile_iff (by rcases hsigns with rfl | rfl <;> rfl), List.mem_filter,
    mem_stripBack_iff (by rcases hsigns with rfl | rfl <;> rfl), hbase]
  rcases hs with rfl | rfl <;> rcases hsigns with rfl | rfl <;> simp [isLeft]

/-- Without an at sign in its authority a web address names no credentials. -/
theorem credentials?_eq_none {scheme text : String} (hs : IsWebScheme scheme)
    (h : text.toList = scheme.toList ++ ':' :: '/' :: '/' :: (a ++ '/' :: b)) (hc : c ∈ a)
    (hleft : isLeft c = true) (hslash : isSlash c = false) (hat : '@' ∉ a) {u : Url}
    (hu : parse text = .ok u) : u.credentials? = none := by
  rw [parse_web_append_slash hs h hc hleft hslash] at hu
  obtain ⟨credentials, name, hcut, host, -, port, rest, -, rfl⟩ :=
    (parseAuthority_eq_ok_iff hs.isSpecial).mp hu
  -- the authority ends before the text that follows
  have hauthority :
      '@' ∉ authorityOf ((a.filter isLeft).dropWhile isSlash ++ '/' :: cleanedBack b) := by
    rw [authorityOf, takeWhile_append_cons rfl]
    exact fun hmem => hat (List.mem_of_mem_filter
      ((List.dropWhile_sublist _).mem ((List.takeWhile_sublist _).mem hmem)))
  rw [cutCredentials, cutLast_eq_none_iff.mpr hauthority] at hcut
  obtain ⟨rfl, -⟩ := Prod.mk.inj (Except.ok.inj hcut)
  rfl

/-! ### Paths below a base URL -/

/-- What is read of a text at the end of a URL as a part of its path. -/
def suffixPart (cs : List Char) : List Char := pathPart (cleanedBack cs)

theorem suffixPart_sublist (cs : List Char) : (suffixPart cs).Sublist cs :=
  (List.takeWhile_sublist _).trans (List.filter_sublist.trans (stripBack_sublist _ cs))

/-- A text is read as a whole when it does not end in an edge and has no tabs, line ends, question
marks and number signs. -/
theorem suffixPart_eq_self_iff :
    suffixPart cs = cs ↔
      (∀ c ∈ cs, isLeft c = true ∧ isPathChar c = true) ∧ ∀ c ∈ cs.getLast?, isEdge c = false := by
  constructor
  · intro h
    have hpath : cs.Sublist (cleanedBack cs) := by
      conv_lhs => rw [← h]
      exact List.takeWhile_sublist _
    have hclean : cleanedBack cs = cs :=
      (List.filter_sublist.trans (stripBack_sublist _ cs)).antisymm hpath
    have hstrip : stripBack isEdge cs = cs :=
      (stripBack_sublist _ cs).antisymm (hpath.trans List.filter_sublist)
    rw [suffixPart, hclean] at h
    rw [cleanedBack, hstrip] at hclean
    exact ⟨fun c hc => ⟨List.filter_eq_self.mp hclean c hc, List.takeWhile_eq_self_iff.mp h c hc⟩,
      stripBack_eq_self_iff.mp hstrip⟩
  · rintro ⟨hall, hlast⟩
    have hclean : cleanedBack cs = cs := by
      rw [cleanedBack, stripBack_eq_self_iff.mpr hlast,
        List.filter_eq_self.mpr fun c hc => (hall c hc).1]
    rw [suffixPart, hclean, pathPart, List.takeWhile_eq_self_iff.mpr fun c hc => (hall c hc).2]

theorem afterAuthority_append_slash (a b : List Char) :
    afterAuthority (a ++ '/' :: b) = afterAuthority a ++ '/' :: b := dropWhile_append_cons rfl

/-- Whether there is a URL below a base URL does not depend on the text below it. -/
theorem exists_parse_congr {base : String} (h : Settings.isWebUrl base = true)
    (hok : ∃ u, parse (dropTrailingSlashes base ++ String.ofList ('/' :: a)) = .ok u) :
    ∃ u, parse (dropTrailingSlashes base ++ String.ofList ('/' :: b)) = .ok u := by
  obtain ⟨scheme, front, hs, -, hparse⟩ := exists_parse_eq h
  simp only [hparse] at hok ⊢
  refine exists_parseAuthority_congr hs.isSpecial ?_ ?_ ?_ hok
  · exact (takeWhile_append_cons rfl).trans (takeWhile_append_cons rfl).symm
  · simp [afterAuthority_append_slash]
  · simp [afterAuthority_append_slash]

theorem exists_readPath (cs : List Char) : ∃ segments, readPath true cs = .segments segments := by
  cases cs with
  | nil => exact ⟨_, rfl⟩
  | cons c cs =>
    rw [readPath]
    split <;> exact ⟨_, rfl⟩

/-- A query or a fragment of the base URL takes in all that is below it. -/
theorem exists_path_of_query {base : String} (h : Settings.isWebUrl base = true)
    (hc : isPathChar c = false) (hbase : c ∈ base.toList) :
    ∃ segments, ∀ cs u,
      parse (dropTrailingSlashes base ++ String.ofList ('/' :: cs)) = .ok u →
        u.path = .segments segments := by
  obtain ⟨scheme, front, hs, hfront, hparse⟩ := exists_parse_eq h
  have hsigns := isPathChar_eq_false_iff.mp hc
  have hafter : c ∈ afterAuthority front :=
    (mem_dropWhile_iff (by rcases hsigns with rfl | rfl <;> rfl)).mpr ((hfront c hc).mpr hbase)
  obtain ⟨r₁, r₂, hr⟩ := List.append_of_mem hafter
  obtain ⟨segments, hsegments⟩ := exists_readPath (pathPart r₁)
  refine ⟨segments, fun cs u hu => ?_⟩
  rw [parseAuthority_path hs.isSpecial ((hparse cs).symm.trans hu), afterAuthority_append_slash, hr,
    List.append_assoc, List.cons_append, pathPart, takeWhile_append_cons hc]
  exact hsegments

/-- Below a base URL without a query and a fragment, a text is read as segments after those of the
base URL, which are already settled. -/
theorem exists_path_below {base : String} (h : Settings.isWebUrl base = true)
    (hbase : ∀ c ∈ base.toList, isPathChar c = true) :
    ∃ done, ∀ cs u,
      parse (dropTrailingSlashes base ++ String.ofList ('/' :: cs)) = .ok u →
        u.path = .segments (normalizeAfter done (readSegments (suffixPart cs))) := by
  obtain ⟨scheme, front, hs, hfront, hparse⟩ := exists_parse_eq h
  have hafter : ∀ c ∈ afterAuthority front, isPathChar c = true := fun c hc =>
    Bool.of_not_eq_false fun hp => by
      have hmem := (hfront c hp).mp ((List.dropWhile_sublist _).mem hc)
      rw [hbase c hmem] at hp
      cases hp
  have hpath : ∀ cs u, parse (dropTrailingSlashes base ++ String.ofList ('/' :: cs)) = .ok u →
      u.path = readPath true (afterAuthority front ++ '/' :: suffixPart cs) := fun cs u hu => by
    rw [parseAuthority_path hs.isSpecial ((hparse cs).symm.trans hu), afterAuthority_append_slash,
      pathPart, List.takeWhile_append_of_pos hafter]
    rfl
  cases hr : afterAuthority front with
  | nil =>
    refine ⟨[], fun cs u hu => ?_⟩
    rw [hpath cs u hu, hr]
    rfl
  | cons d r =>
    -- the authority ends at a slash of one of the two kinds
    have hd : d = '/' ∨ d = '\\' := by
      have hends := List.head?_dropWhile_not (fun c => !endsAuthority true c) front
      have hchar := hafter d (hr ▸ List.mem_cons_self)
      rw [afterAuthority] at hr
      rw [hr] at hends
      simp only [List.head?_cons, endsAuthority, Bool.true_and, Bool.not_eq_false', Bool.or_eq_true,
        List.contains_iff_mem, List.mem_cons, List.not_mem_nil, or_false, beq_iff_eq] at hends
      rcases hends with (rfl | rfl | rfl) | rfl
      · exact .inl rfl
      · cases hchar
      · cases hchar
      · exact .inr rfl
    refine ⟨(readSegments r).foldl settle [], fun cs u hu => ?_⟩
    have hread : readPath true (d :: (r ++ '/' :: suffixPart cs)) =
        .segments (pathSegments true (r ++ '/' :: suffixPart cs)) := by
      rcases hd with rfl | rfl <;> rfl
    rw [hpath cs u hu, hr, List.cons_append, hread, pathSegments_true, readSegments_append_slash,
      normalizeAfter_append (readSegments_ne_nil _)]

end Catalog.Url
