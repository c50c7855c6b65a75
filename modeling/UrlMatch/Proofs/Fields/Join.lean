import UrlMatch.Proofs.Component.Compile
import UrlMatch.Proofs.Fields.Situation
import UrlMatch.Proofs.Pattern.Names
import UrlMatch.Proofs.Text

/-!
# Splitting undoes joining

The text of a URL is joined from its parts with signs between them. As long as no part holds a
character with a meaning in patterns, nor a sign that ends it, splitting the text as a pattern gives
the parts back. What is not written is missing, up to what is implied by what is written behind it:
an empty port behind every host, and an empty path or query, or the root of a special scheme.

## Main results

* `exists_ofText_scheme`: the pattern that is a scheme matches a special scheme if it is one.
* `split_join`: splitting gives the parts back.
-/

namespace UrlMatch.Fields

open Pattern

/-! ### Joining -/

/-- The parts of a URL with a host. -/
structure UrlParts where
  scheme : Text
  /-- A user, perhaps with a password. -/
  user : Option (Text × Option Text)
  host : Text
  port : Option Text
  path : Text
  query : Option Text
  fragment : Option Text

/-- A part behind the sign that announces it, if it is there. -/
def announced (ch : Char) : Option Text → Text
  | none => []
  | some t => ch :: t

/-- No character of the text has a meaning in patterns, nor starts a fragment. -/
def IsPlain (t : Text) : Prop := ∀ c ∈ t, isSpecial c = false ∧ c ≠ '#'

instance (t : Text) : Decidable (IsPlain t) :=
  decidable_of_iff (t.all fun c => !isSpecial c && c != '#') (by simp [IsPlain])

namespace UrlParts

/-- The user in front of a host. The colon in front of a password would start a name. -/
def userText (u : UrlParts) : Text :=
  match u.user with
  | none => []
  | some (name, none) => name ++ ['@']
  | some (name, some password) => name ++ ['\\', ':'] ++ password ++ ['@']

/-- What stands behind the host and its port. -/
def tail (u : UrlParts) : Text := u.path ++ (announced '?' u.query ++ announced '#' u.fragment)

/-- The text of a URL. -/
def join (u : UrlParts) : Text :=
  u.scheme ++ ([':', '/', '/'] ++ (u.userText ++ (u.host ++ (announced ':' u.port ++ u.tail))))

/-- The parts hold no character at which they would end. -/
structure Plain (u : UrlParts) : Prop where
  scheme_ne_nil : u.scheme ≠ []
  scheme : ∀ c ∈ u.scheme, c.isAlphanum ∨ c = '-' ∨ c = '.'
  user : ∀ name password, u.user = some (name, password) →
    ∀ t ∈ name :: password.toList, IsPlain t ∧ '/' ∉ t ∧ '@' ∉ t
  host : IsPlain u.host ∧ ∀ c ∈ u.host, c ∉ ['/', '@', '[', ']']
  port : ∀ t ∈ u.port, ∀ c ∈ t, c.isDigit
  path : u.path = [] ∨ (IsPlain u.path ∧ u.path.head? = some '/')
  query : ∀ t ∈ u.query, IsPlain t
  fragment : ∀ t ∈ u.fragment, IsPlain t

/-- The scheme is special, in whatever case it is written. -/
def hasSpecialScheme (u : UrlParts) : Bool := Url.isSpecialScheme (Text.asciiLower u.scheme)

/-- The parts as components, with what is implied. -/
def components (u : UrlParts) : Components (Option Text) where
  protocol := some u.scheme
  username := u.user.map Prod.fst
  password := u.user.bind Prod.snd
  hostname := some u.host
  port := some (u.port.getD [])
  pathname :=
    if u.path ≠ [] then some u.path
    else if u.query.isSome ∨ u.fragment.isSome then some (if u.hasSpecialScheme then ['/'] else [])
    else none
  search := if u.query.isNone ∧ u.fragment.isSome then some [] else u.query
  hash := u.fragment

end UrlParts

/-! ### Characters of parts -/

theorem IsPlain.special {t : Text} (h : IsPlain t) : ∀ c ∈ t, isSpecial c = false :=
  fun c hc => (h c hc).1

/-- A sign that a plain text may hold is one of those that are not special. -/
theorem IsPlain.notMem_signs {t : Text} (h : IsPlain t) {s : State} {ch : Char} (hch : ch ∈ t)
    (hsigns : ∀ x ∈ s.signs, x = '#' ∨ isSpecial x ∨ x ∉ t) : ch ∉ s.signs := by
  intro hmem
  rcases hsigns ch hmem with rfl | hspecial | hnot
  · exact (h _ hch).2 rfl
  · rw [(h ch hch).1] at hspecial
    cases hspecial
  · exact hnot hch

/-- A letter, a digit, a hyphen or a point has no meaning in patterns. -/
theorem isSpecial_of_schemeChar {c : Char} (h : c.isAlphanum ∨ c = '-' ∨ c = '.') :
    isSpecial c = false := by
  by_contra hspecial
  have hmem : c ∈ ['+', '*', '?', ':', '\x7b', '\x7d', '(', ')', '\\'] :=
    of_decide_eq_true (eq_true_of_ne_false hspecial)
  have hall : ∀ x ∈ ['+', '*', '?', ':', '\x7b', '\x7d', '(', ')', '\\'],
      ¬ (x.isAlphanum ∨ x = '-' ∨ x = '.') := Text.forall_mem_of_all (by decide)
  exact hall c hmem h

theorem isSpecial_of_isDigit {c : Char} (h : c.isDigit) : isSpecial c = false :=
  isSpecial_of_schemeChar (.inl (by simp [Char.isAlphanum, h]))

/-- **The pattern that is a scheme** matches one of the special schemes exactly if it is one. -/
theorem exists_ofText_scheme {scheme : Text} (hne : scheme ≠ [])
    (h : ∀ c ∈ scheme, c.isAlphanum ∨ c = '-' ∨ c = '.') :
    ∃ p, ComponentPattern.ofText .protocol false false scheme = .ok p ∧
      p.matchesSpecialScheme = Url.isSpecialScheme (Text.asciiLower scheme) := by
  have hchars : ∀ c ∈ scheme, Encoding.isSchemePart c ∧ isSpecial c = false := by
    intro c hc
    refine ⟨?_, isSpecial_of_schemeChar (h c hc)⟩
    rcases h c hc with hc | rfl | rfl
    · simp [Encoding.isSchemePart, hc]
    · decide
    · decide
  obtain ⟨p, hp, hmatch⟩ := ComponentPattern.exists_ofText_protocol hne hchars
  exact ⟨p, hp, ComponentPattern.matchesSpecialScheme_of_isMatch_iff hmatch⟩

/-! ### Behind the host -/

namespace Situation

variable {q : Bool} {g t : Text} {s : State} {a b c d e f : Option Text}

/-- The fragment goes up to the end. -/
theorem leads_fragment {vs : Components (Option Text)} (ht : IsPlain t) :
    Leads ⟨.hash, q, vs, [], t⟩ ⟨.done, q, vs.set .hash (some t), [], []⟩ := by
  have htext := leads_text (s := .hash) (q := q) (r := vs) (g := []) (t := []) (v := t) (by simp)
    fun ch hch => ⟨ht.special ch hch, by simp [State.signs]⟩
  rw [List.append_nil] at htext
  exact htext.trans (leads_done rfl)

/-- The query goes up to the fragment, if there is one. -/
theorem leads_query {fragment : Option Text} (ht : IsPlain t)
    (hfragment : ∀ t ∈ fragment, IsPlain t) :
    Leads ⟨.search, q, ⟨a, b, c, d, e, f, none, none⟩, [], t ++ announced '#' fragment⟩
      ⟨.done, q, ⟨a, b, c, d, e, f, some t, fragment⟩, [], []⟩ := by
  have htext := leads_text (s := .search) (q := q) (g := []) (v := t)
    (r := ⟨a, b, c, d, e, f, none, none⟩) (t := announced '#' fragment) (by simp)
    fun ch hch => ⟨ht.special ch hch, ht.notMem_signs hch (by simp [State.signs])⟩
  refine htext.trans ?_
  cases fragment with
  | none => exact leads_done rfl
  | some fragment =>
      exact (leads_hash (by simp)).trans (leads_fragment (hfragment fragment rfl))

/-- What is implied by a query or a fragment behind a host. -/
def impliedPath (q : Bool) (query fragment : Option Text) : Option Text :=
  if query.isSome ∨ fragment.isSome then some (if q then ['/'] else []) else none

/-- What is implied by a fragment without a query. -/
def impliedQuery (query fragment : Option Text) : Option Text :=
  if query.isNone ∧ fragment.isSome then some [] else query

/-- A path goes up to a query or a fragment, if there is one. -/
theorem leads_behind_path {query fragment : Option Text} (hquery : ∀ t ∈ query, IsPlain t)
    (hfragment : ∀ t ∈ fragment, IsPlain t) :
    Leads ⟨.pathname, q, ⟨a, b, c, d, e, none, none, none⟩, g,
        announced '?' query ++ announced '#' fragment⟩
      ⟨.done, q, ⟨a, b, c, d, e, some g, impliedQuery query fragment, fragment⟩, [], []⟩ := by
  cases query with
  | some query =>
      exact (leads_search (by simp)).trans (leads_query (hquery query rfl) hfragment)
  | none =>
      cases fragment with
      | none => exact leads_done rfl
      | some fragment =>
          exact (leads_hash (by simp)).trans (leads_fragment (hfragment fragment rfl))

/-- Behind a host or its port there are a path, a query and a fragment. -/
theorem leads_behind_host {vs : Components (Option Text)} {path : Text}
    {query fragment : Option Text} (hs : s = .hostname ∨ s = .port)
    (hvs : ∀ t, written ⟨s, q, vs, g, t⟩ = ⟨a, b, c, d, e, none, none, none⟩)
    (hpath : path = [] ∨ (IsPlain path ∧ path.head? = some '/')) (hquery : ∀ t ∈ query, IsPlain t)
    (hfragment : ∀ t ∈ fragment, IsPlain t) :
    Leads ⟨s, q, vs, g, path ++ (announced '?' query ++ announced '#' fragment)⟩
      ⟨.done, q, ⟨a, b, c, d, e, if path ≠ [] then some path else impliedPath q query fragment,
        impliedQuery query fragment, fragment⟩, [], []⟩ := by
  have hbehind (next : State) (t : Text) (hnext : next ≠ .done) :
      valuesBehind ⟨s, q, vs, g, t⟩ next =
        { Cursor.initial [] with state := s, special := q }.implied next
          ⟨a, b, c, d, e, none, none, none⟩ := by
    rw [valuesBehind, if_neg, hvs]
    rcases hs with rfl | rfl <;> simp [hnext]
  have hsearch (t : Text) : valuesBehind ⟨s, q, vs, g, t⟩ .search =
      ⟨a, b, c, d, e, some (if q then ['/'] else []), none, none⟩ := by
    rw [hbehind _ _ (by simp)]
    rcases hs with rfl | rfl <;> rfl
  have hhash (t : Text) : valuesBehind ⟨s, q, vs, g, t⟩ .hash =
      ⟨a, b, c, d, e, some (if q then ['/'] else []), some [], none⟩ := by
    rw [hbehind _ _ (by simp)]
    rcases hs with rfl | rfl <;> rfl
  have hpathname (t : Text) : valuesBehind ⟨s, q, vs, g, t⟩ .pathname =
      ⟨a, b, c, d, e, none, none, none⟩ := by
    rw [hbehind _ _ (by simp)]
    rcases hs with rfl | rfl <;> rfl
  have hmem : s ∈ [.hostname, .port, .pathname] := by rcases hs with rfl | rfl <;> simp
  rcases hpath with rfl | ⟨hplain, hslash⟩
  · cases query with
    | some query =>
        have hfirst := leads_search (q := q) (r := vs) (g := g)
          (t := query ++ announced '#' fragment) hmem
        rw [hsearch] at hfirst
        exact hfirst.trans (leads_query (hquery query rfl) hfragment)
    | none =>
        cases fragment with
        | none =>
            have hend := leads_done (s := s) (q := q) (r := vs) (g := g)
              (by rcases hs with rfl | rfl <;> rfl)
            rw [hvs] at hend
            exact hend
        | some fragment =>
            have hfirst := leads_hash (q := q) (r := vs) (g := g) (t := fragment)
              (List.mem_append_left [.search] hmem)
            rw [hhash] at hfirst
            exact hfirst.trans (leads_fragment (hfragment fragment rfl))
  · obtain ⟨rest, rfl⟩ := List.head?_eq_some_iff.1 hslash
    have hfirst := leads_pathname (q := q) (r := vs) (g := g)
      (t := rest ++ (announced '?' query ++ announced '#' fragment)) hs
    rw [hpathname] at hfirst
    have htext := leads_text (s := .pathname) (q := q) (g := []) (v := '/' :: rest)
      (r := ⟨a, b, c, d, e, none, none, none⟩) (t := announced '?' query ++ announced '#' fragment)
      (by simp) fun ch hch => ⟨hplain.special ch hch,
        hplain.notMem_signs hch (by simp [State.signs, isSpecial])⟩
    rw [if_pos (List.cons_ne_nil _ _)]
    exact hfirst.trans (htext.trans (leads_behind_path hquery hfragment))

end Situation

/-! ### The host and what is in front of it -/

/-- A path, a query and a fragment start with their signs. -/
theorem head_behind_host {path : Text} {query fragment : Option Text}
    (hpath : path = [] ∨ (IsPlain path ∧ path.head? = some '/')) :
    ∀ ch ∈ (path ++ (announced '?' query ++ announced '#' fragment)).head?,
      ch ∈ ['/', '?', '#'] := by
  rcases hpath with rfl | ⟨-, hslash⟩
  · cases query with
    | some query => simp [announced]
    | none => cases fragment <;> simp [announced]
  · obtain ⟨rest, rfl⟩ := List.head?_eq_some_iff.1 hslash
    simp

/-- No name starts a port or what is behind it. -/
theorem takeName_port {port t : Text} (hport : ∀ c ∈ port, c.isDigit)
    (ht : ∀ ch ∈ t.head?, ch ∈ ['/', '?', '#']) : takeName (port ++ t) = [] := by
  have hhead : ∀ ch ∈ (port ++ t).head?, isNameStart ch = false := by
    cases port with
    | cons c port =>
        rintro ch ⟨⟩
        exact isNameStart_of_isDigit (hport c List.mem_cons_self)
    | nil =>
        intro ch hch
        have hall : ∀ x ∈ ['/', '?', '#'], isNameStart x = false :=
          Text.forall_mem_of_all (by decide)
        exact hall ch (ht ch hch)
  cases htext : port ++ t with
  | nil => rfl
  | cons c rest => simp [takeName, hhead c (by simp [htext])]

namespace Situation

variable {q : Bool} {a b c : Option Text}

/-- **A host goes up to its port, or to what is behind it.** -/
theorem leads_host {host : Text} {port : Option Text} {path : Text} {query fragment : Option Text}
    (hhost : IsPlain host ∧ ∀ c ∈ host, c ∉ ['/', '@', '[', ']'])
    (hport : ∀ t ∈ port, ∀ c ∈ t, c.isDigit)
    (hpath : path = [] ∨ (IsPlain path ∧ path.head? = some '/')) (hquery : ∀ t ∈ query, IsPlain t)
    (hfragment : ∀ t ∈ fragment, IsPlain t) :
    Leads ⟨.hostname, q, ⟨a, b, c, none, none, none, none, none⟩, [],
        host ++ (announced ':' port ++ (path ++ (announced '?' query ++ announced '#' fragment)))⟩
      ⟨.done, q, ⟨a, b, c, some host, port,
        if path ≠ [] then some path else impliedPath q query fragment,
        impliedQuery query fragment, fragment⟩, [], []⟩ := by
  have hnot (x : Char) (hx : x ∈ ['/', '@', '[', ']']) : x ∉ host := fun hmem => hhost.2 x hmem hx
  have htext := leads_text (s := .hostname) (q := q) (g := []) (v := host)
    (r := ⟨a, b, c, none, none, none, none, none⟩)
    (t := announced ':' port ++ (path ++ (announced '?' query ++ announced '#' fragment)))
    (by simp) fun ch hch => ⟨hhost.1.special ch hch, hhost.1.notMem_signs hch
      (by simp [State.signs, isSpecial, hnot])⟩
  refine htext.trans ?_
  cases port with
  | none => exact leads_behind_host (.inl rfl) (fun _ => rfl) hpath hquery hfragment
  | some port =>
      have hdigits := hport port rfl
      have hhead : ∀ ch ∈ (path ++ (announced '?' query ++ announced '#' fragment)).head?,
          ch ∈ ['/', '?', '#'] := head_behind_host hpath
      have hname := takeName_port hdigits hhead
      have hgathered := leads_text (s := .port) (q := q) (g := []) (v := port)
        (r := ⟨a, b, c, some host, none, none, none, none⟩)
        (t := path ++ (announced '?' query ++ announced '#' fragment)) (by simp)
        fun ch hch => ⟨isSpecial_of_isDigit (hdigits ch hch), fun hmem => ?_⟩
      · refine (leads_hostname_port (standsFor_colon hname)).trans (hgathered.trans ?_)
        exact leads_behind_host (.inr rfl) (fun _ => rfl) hpath hquery hfragment
      · have hall : ∀ x ∈ State.port.signs, ¬ x.isDigit := Text.forall_mem_of_all (by decide)
        exact hall ch hmem (hdigits ch hch)

/-- The signs at which an authority ends are none of the characters of a plain text without them. -/
theorem notMem_signs_authority {t : Text} (h : IsPlain t) (hslash : '/' ∉ t) (hat : '@' ∉ t)
    {ch : Char} (hch : ch ∈ t) : ch ∉ State.authority.signs :=
  h.notMem_signs hch (by simp [State.signs, isSpecial, hslash, hat])

/-- Without a user, the host is looked for at once. -/
theorem leads_no_user {vs : Components (Option Text)} {host t : Text} {port : Option Text}
    (hhost : IsPlain host ∧ ∀ c ∈ host, c ∉ ['/', '@', '[', ']'])
    (hport : ∀ t ∈ port, ∀ c ∈ t, c.isDigit) (ht : ∀ ch ∈ t.head?, ch ∈ ['/', '?', '#']) :
    Leads ⟨.authority, q, vs, [], host ++ (announced ':' port ++ t)⟩
      ⟨.hostname, q, vs, [], host ++ (announced ':' port ++ t)⟩ := by
  have hnot (x : Char) (hx : x ∈ ['/', '@', '[', ']']) : x ∉ host := fun hmem => hhost.2 x hmem hx
  have htext := leads_text (s := .authority) (q := q) (r := vs) (g := []) (v := host)
    (t := announced ':' port ++ t) (by simp) fun ch hch => ⟨hhost.1.special ch hch,
      notMem_signs_authority hhost.1 (hnot _ (by simp)) (hnot _ (by simp)) hch⟩
  cases port with
  | none => exact htext.trans (leads_authority_host ht)
  | some port =>
      have hdigits := hport port rfl
      have hcolon := leads_gather (s := .authority) (q := q) (r := vs) (g := host)
        (standsFor_colon (takeName_port hdigits ht)) (by simp) (by decide)
      have hgathered := leads_text (s := .authority) (q := q) (r := vs) (g := host ++ [':'])
        (v := port) (t := t) (by simp) fun ch hch => ⟨isSpecial_of_isDigit (hdigits ch hch), ?_⟩
      · have hend := leads_authority_host (q := q) (r := vs) (g := host ++ [':'] ++ port) ht
        have hall := htext.trans (hcolon.trans (hgathered.trans hend))
        simpa [announced] using hall
      · intro hmem
        have hall : ∀ x ∈ State.authority.signs, ¬ x.isDigit :=
          Text.forall_mem_of_all (by decide)
        exact hall ch hmem (hdigits ch hch)

/-- A user goes up to the sign of the host. -/
theorem leads_user {name t : Text} (hname : IsPlain name ∧ '/' ∉ name ∧ '@' ∉ name) :
    Leads ⟨.authority, q, ⟨a, none, none, none, none, none, none, none⟩, [],
        name ++ ['@'] ++ t⟩
      ⟨.hostname, q, ⟨a, some name, none, none, none, none, none, none⟩, [], t⟩ := by
  obtain ⟨hplain, hslash, hat⟩ := hname
  have hat' : StandsFor ['@'] '@' t := standsFor_char (by decide) t
  rw [List.append_assoc]
  refine (leads_text (by simp) fun ch hch => ⟨hplain.special ch hch,
    notMem_signs_authority hplain hslash hat hch⟩).trans ((leads_authority_user hat').trans ?_)
  refine (leads_text (by simp) fun ch hch => ⟨hplain.special ch hch, hplain.notMem_signs hch
    (by simp [State.signs, isSpecial, hat])⟩).trans ?_
  exact leads_username_hostname hat'

/-- A user and a password go up to the sign of the host. -/
theorem leads_user_password {name password t : Text}
    (hname : IsPlain name ∧ '/' ∉ name ∧ '@' ∉ name)
    (hpassword : IsPlain password ∧ '/' ∉ password ∧ '@' ∉ password) :
    Leads ⟨.authority, q, ⟨a, none, none, none, none, none, none, none⟩, [],
        name ++ ['\\', ':'] ++ password ++ ['@'] ++ t⟩
      ⟨.hostname, q, ⟨a, some name, some password, none, none, none, none, none⟩, [], t⟩ := by
  obtain ⟨hplain, hslash, hat⟩ := hname
  obtain ⟨hplain', hslash', hat'⟩ := hpassword
  have hsign : StandsFor ['@'] '@' t := standsFor_char (by decide) t
  have hcolon : StandsFor ['\\', ':'] ':' (password ++ (['@'] ++ t)) := standsFor_escaped _ _
  simp only [List.append_assoc]
  -- the user and the password are passed once in search of the sign, and gathered the second time
  refine (leads_text (by simp) fun ch hch => ⟨hplain.special ch hch,
    notMem_signs_authority hplain hslash hat hch⟩).trans ((leads_gather hcolon (by simp)
      (by decide)).trans ((leads_text (by simp) fun ch hch => ⟨hplain'.special ch hch,
        notMem_signs_authority hplain' hslash' hat' hch⟩).trans
          ((leads_authority_user hsign).trans ?_)))
  simp only [List.nil_append, List.append_assoc]
  refine (leads_text (by simp) fun ch hch => ⟨hplain.special ch hch, hplain.notMem_signs hch
    (by simp [State.signs, isSpecial, hat])⟩).trans
      ((leads_username_password hcolon).trans ?_)
  refine (leads_text (by simp) fun ch hch => ⟨hplain'.special ch hch, hplain'.notMem_signs hch
    (by simp [State.signs, hat'])⟩).trans ?_
  exact leads_password_hostname hsign

end Situation

/-! ### The whole text -/

namespace UrlParts

open Situation

variable {u : UrlParts}

/-- The scheme goes up to the signs of the host. -/
theorem leads_scheme (h : u.Plain) (t : Text) :
    Leads ⟨.start, false, .replicate none, [], u.scheme ++ ([':', '/', '/'] ++ t)⟩
      ⟨.authority, u.hasSpecialScheme, ⟨some u.scheme, none, none, none, none, none, none, none⟩,
        [], t⟩ := by
  obtain ⟨p, hp, hspecial⟩ := exists_ofText_scheme h.scheme_ne_nil h.scheme
  have hplain : ∀ ch ∈ u.scheme, isSpecial ch = false :=
    fun ch hch => isSpecial_of_schemeChar (h.scheme ch hch)
  have hsigns : ∀ ch ∈ u.scheme, ch ∉ [':'] := by
    intro ch hch hmem
    rw [List.mem_singleton] at hmem
    have hcolon := hmem ▸ hplain ch hch
    exact absurd hcolon (by decide)
  have hname : takeName ('/' :: '/' :: t) = [] := by
    simp [takeName, show isNameStart '/' = false by decide]
  have hfirst := leads_start (q := false) (r := .replicate none) (g := u.scheme)
    (standsFor_colon hname)
  have hauthority := leads_authority (q := false) (r := .replicate none) (t := t) hp
  rw [hspecial] at hauthority
  have hstart := leads_text (s := .start) (q := false) (r := .replicate none) (g := [])
    (t := [':', '/', '/'] ++ t) (by simp) fun ch hch => ⟨hplain ch hch, hsigns ch hch⟩
  have hprotocol := leads_text (s := .protocol) (q := false) (r := .replicate none) (g := [])
    (t := [':', '/', '/'] ++ t) (by simp) fun ch hch => ⟨hplain ch hch, hsigns ch hch⟩
  exact hstart.trans (hfirst.trans (hprotocol.trans hauthority))

/-- A user, if there is one, goes up to the host. -/
theorem leads_userText (h : u.Plain) :
    Leads ⟨.authority, u.hasSpecialScheme,
        ⟨some u.scheme, none, none, none, none, none, none, none⟩, [],
        u.userText ++ (u.host ++ (announced ':' u.port ++ u.tail))⟩
      ⟨.hostname, u.hasSpecialScheme, ⟨some u.scheme, u.user.map Prod.fst, u.user.bind Prod.snd,
        none, none, none, none, none⟩, [], u.host ++ (announced ':' u.port ++ u.tail)⟩ := by
  have huser := h.user
  rw [userText]
  rcases hu : u.user with _ | ⟨name, _ | password⟩
  · exact leads_no_user h.host h.port (head_behind_host h.path)
  · exact leads_user (huser name none hu name (by simp))
  · exact leads_user_password (huser name _ hu name (by simp)) (huser name _ hu password (by simp))

/-- The values in front of what is implied by the host. -/
theorem splitText_join (h : u.Plain) : splitText u.join = .ok u.components := by
  have hhost := leads_host (q := u.hasSpecialScheme) (a := some u.scheme)
    (b := u.user.map Prod.fst) (c := u.user.bind Prod.snd) h.host h.port h.path h.query h.fragment
  have hall := (leads_scheme h _).trans ((leads_userText h).trans hhost)
  have hsplit := splitText_of_leads hall
  rw [join, hsplit, components]
  cases hport : u.port <;> rfl

end UrlParts

/-- **Splitting undoes joining**, whatever the base. -/
theorem split_join {u : UrlParts} (h : u.Plain) (base : Option Text) :
    split u.join base = .ok ⟨u.components, base⟩ := by
  rw [split, UrlParts.splitText_join h]
  rfl

/-- A URL with all parts but a path, `HTTP://u\\:p@h:80?q/@#f`. -/
theorem split_join_without_path :
    let u : UrlParts := ⟨"HTTP".toList, some (['u'], some ['p']), ['h'], some ['8', '0'], [],
      some ['q', '/', '@'], some ['f']⟩
    u.Plain ∧ split u.join none = .ok ⟨⟨some "HTTP".toList, some ['u'], some ['p'], some ['h'],
      some ['8', '0'], some ['/'], some ['q', '/', '@'], some ['f']⟩, none⟩ := by
  intro u
  have h : u.Plain := by
    refine ⟨by decide, Text.forall_mem_of_all (by decide), ?_,
      ⟨by decide, Text.forall_mem_of_all (by decide)⟩, ?_, .inl rfl, by decide, by decide⟩
    · rintro name password ⟨⟩
      decide
    · rintro port ⟨⟩
      exact Text.forall_mem_of_all (by decide)
  exact ⟨h, split_join h none⟩

end UrlMatch.Fields
