import UrlMatch.Proofs.Pattern.Positions
import UrlMatch.Proofs.Pattern.Recoding
import UrlMatch.Proofs.Pattern.Spelling

/-!
# The grammar of patterns

In front of its end a pattern is a list of items: characters, captures with a modifier that may be
missing, and pairs of braces around text and at most one capture, again with a modifier. An
asterisk can start a capture and can be a modifier, so where one item ends decides what the next
one is: `Items` goes from left to right, and an item takes everything that can belong to it.

The grammar speaks of the kinds of lexemes only. Reading reaches the end of a pattern exactly if
the lexemes in front of it are items, and what it has read then stands for parts exactly if no name
is given twice. Whether a name is given twice can be seen on the lexemes, too.

## Main results

* `Items.complete` and `items_of_complete`: the end is reached behind items, and only there.
* `exists_partsOf_plain_iff`: what is read stands for parts exactly if the names differ.
* `exists_parse_plain_iff`: the texts that are patterns.
-/

namespace UrlMatch.Pattern

/-! ### The grammar -/

/-- A lexeme that can be a modifier. -/
def Lexeme.IsModifier (l : Lexeme) : Prop := l.kind = .modifier ∨ l.kind = .asterisk

/-- The lexemes that a capture can be written with. -/
inductive IsCore : List Lexeme → Prop
  | name {l : Lexeme} : l.kind = .name → IsCore [l]
  | regexp {l : Lexeme} : l.kind = .regexp → IsCore [l]
  | nameRegexp {l r : Lexeme} : l.kind = .name → r.kind = .regexp → IsCore [l, r]
  | asterisk {l : Lexeme} : l.kind = .asterisk → IsCore [l]

/-- A name takes the regular expression directly behind it, so none is left to follow. -/
def EndsCore (core behind : List Lexeme) : Prop :=
  ∀ l ∈ core.getLast?, l.kind = .name → ∀ r ∈ behind.head?, r.kind ≠ .regexp

/-- The modifier of what stands in front of it: one lexeme if it can be a modifier, else none. -/
inductive EndsItem : (modifier behind : List Lexeme) → Prop
  | modified {l : Lexeme} {behind : List Lexeme} : l.IsModifier → EndsItem [l] behind
  | once {behind : List Lexeme} : (∀ l ∈ behind.head?, ¬ l.IsModifier) → EndsItem [] behind

/-- Lexemes that split into items, from left to right. -/
inductive Items : List Lexeme → Prop
  | nil : Items []
  | text {l : Lexeme} {ls : List Lexeme} : l.isText → Items ls → Items (l :: ls)
  | capture {core modifier ls : List Lexeme} : IsCore core → EndsCore core (modifier ++ ls) →
      EndsItem modifier ls → Items ls → Items (core ++ (modifier ++ ls))
  | braces {opening closing : Lexeme} {lead core trail modifier ls : List Lexeme} :
      opening.kind = .opening → (∀ l ∈ lead, l.isText) → core = [] ∨ IsCore core →
      (∀ l ∈ trail, l.isText) → closing.kind = .closing → EndsItem modifier ls → Items ls →
      Items (opening :: (lead ++ (core ++ (trail ++ closing :: (modifier ++ ls)))))

/-! ### Names -/

/-- The name that a lexeme gives, if it is one. -/
def Lexeme.name? (l : Lexeme) : Option Text := if l.kind = .name then some l.value else none

/-- The name that an item gives to its capture. -/
def Item.name? : Item → Option Text
  | .bare core _ => core.name?
  | .group _ core _ _ => core.name?
  | _ => none

/-- The names among lexemes, in order. -/
def namesAmong (ls : List Lexeme) : List Text := ls.filterMap (·.name?)

/-- The names that items give, in order. -/
def givenNames (items : List Item) : List Text := items.filterMap (·.name?)

variable {o : ReadOptions} {ls core modifier behind : List Lexeme}

@[simp] theorem namesAmong_append (ls ls' : List Lexeme) :
    namesAmong (ls ++ ls') = namesAmong ls ++ namesAmong ls' := List.filterMap_append

/-- Only names give names. -/
theorem namesAmong_cons_of_ne {l : Lexeme} (h : l.kind ≠ .name) (ls : List Lexeme) :
    namesAmong (l :: ls) = namesAmong ls := List.filterMap_cons_none (if_neg h)

/-- Text gives no names. -/
theorem namesAmong_text (h : ∀ l ∈ ls, l.isText) : namesAmong ls = [] := by
  refine List.filterMap_eq_nil_iff.2 fun l hl => if_neg fun hkind => ?_
  simpa [Lexeme.isText, hkind] using h l hl

theorem EndsItem.namesAmong_eq_nil (h : EndsItem modifier behind) : namesAmong modifier = [] := by
  cases h with
  | modified hl => rcases hl with hl | hl <;> simp [namesAmong, Lexeme.name?, hl]
  | once => rfl

theorem givenNames_cons (i : Item) (items : List Item) :
    givenNames (i :: items) = i.name?.toList ++ givenNames items := by
  cases h : i.name? <;> simp [givenNames, h]

/-! ### Reading one item -/

/-- A condition on the lexeme behind others is one on the lexeme in front of the end, if the end
meets it. -/
theorem forall_head?_append {P : Lexeme → Prop} {e : Lexeme} (he : P e) (rest : List Lexeme) :
    (∀ l ∈ (ls ++ e :: rest).head?, P l) ↔ ∀ l ∈ ls.head?, P l := by
  cases ls <;> simp [he]

/-- What is read as the core of a capture is one, and takes what it can. -/
theorem isCore_of_takeCore {c : Core} {rest : List Lexeme} (h : takeCore ls = (some c, rest)) :
    ∃ core, ls = core ++ rest ∧ IsCore core ∧ EndsCore core rest ∧
      c.name?.toList = namesAmong core := by
  revert h
  fun_cases takeCore ls
  · rintro ⟨⟩
    exact ⟨[_, _], rfl, .nameRegexp rfl rfl, by simp [EndsCore], rfl⟩
  · rename_i hregexp
    rintro ⟨⟩
    refine ⟨[_], rfl, .name rfl, fun _ _ _ r hr hkind => ?_, rfl⟩
    obtain ⟨rest, rfl⟩ := List.head?_eq_some_iff.1 hr
    obtain ⟨kind, start, value⟩ := r
    obtain rfl : kind = .regexp := hkind
    exact hregexp start value rest rfl
  · rintro ⟨⟩
    exact ⟨[_], rfl, .regexp rfl, by simp [EndsCore], rfl⟩
  · rintro ⟨⟩
    exact ⟨[_], rfl, .asterisk rfl, by simp [EndsCore], rfl⟩
  · rintro ⟨⟩

/-- A core that takes what it can is read as one. -/
theorem takeCore_of_isCore (h : IsCore core) (hends : EndsCore core behind) :
    ∃ c, takeCore (core ++ behind) = (some c, behind) ∧ c.name?.toList = namesAmong core := by
  cases h with
  | @name l hl =>
      obtain ⟨kind, start, value⟩ := l
      obtain rfl : kind = .name := hl
      refine ⟨.name value, ?_, rfl⟩
      have hregexp : ∀ r ∈ behind.head?, r.kind ≠ .regexp := hends _ rfl rfl
      cases behind with
      | nil => rfl
      | cons r behind =>
          have hr := hregexp r rfl
          obtain ⟨kind, start', value'⟩ := r
          cases kind <;> first | rfl | exact absurd rfl hr
  | @regexp l hl =>
      obtain ⟨kind, start, value⟩ := l
      obtain rfl : kind = .regexp := hl
      exact ⟨.regexp value, rfl, rfl⟩
  | @nameRegexp l r hl hr =>
      obtain ⟨kind, start, value⟩ := l
      obtain ⟨kind', start', value'⟩ := r
      obtain rfl : kind = .name := hl
      obtain rfl : kind' = .regexp := hr
      exact ⟨.nameRegexp value value', rfl, rfl⟩
  | @asterisk l hl =>
      obtain ⟨kind, start, value⟩ := l
      obtain rfl : kind = .asterisk := hl
      exact ⟨.regexp wildcardRegexp, rfl, rfl⟩

/-- What is read as a modifier is the modifier. -/
theorem endsItem_of_takeModifier (ls : List Lexeme) :
    ∃ modifier, ls = modifier ++ (takeModifier ls).2 ∧ EndsItem modifier (takeModifier ls).2 := by
  fun_cases takeModifier ls
  · exact ⟨[], rfl, .once fun r hr => absurd hr (Option.not_mem_none r)⟩
  · rename_i l rest hl
    exact ⟨[l], rfl, .modified hl⟩
  · rename_i l rest hl
    exact ⟨[], rfl, .once fun r hr => Option.some.inj hr ▸ hl⟩

/-- The modifier is read as one. -/
theorem EndsItem.takeModifier_append (h : EndsItem modifier behind) :
    (takeModifier (modifier ++ behind)).2 = behind := by
  cases h with
  | modified hl => exact congrArg Prod.snd (if_pos hl)
  | once hl =>
      cases behind with
      | nil => rfl
      | cons l behind => exact congrArg Prod.snd (if_neg (hl l rfl))

/-- Where no core is read, nothing is. -/
theorem eq_of_takeCore_none {rest : List Lexeme} (h : takeCore ls = (none, rest)) : rest = ls := by
  revert h
  fun_cases takeCore ls <;> rintro ⟨⟩
  rfl

/-- What is read between braces is text around at most one core. -/
theorem exists_body (ls : List Lexeme) :
    ∃ lead core trail, ls = lead ++ (core ++ (trail ++ (takeBody ls).2)) ∧
      (∀ l ∈ lead, l.isText) ∧ (core = [] ∨ IsCore core) ∧ (∀ l ∈ trail, l.isText) ∧
      ∀ m, (Item.ofBody (takeBody ls).1 m).name?.toList = namesAmong core := by
  have htext (ls : List Lexeme) : ∀ l ∈ ls.takeWhile Lexeme.isText, l.isText :=
    fun l hl => List.mem_takeWhile_imp hl
  have hlead := List.takeWhile_append_dropWhile (p := Lexeme.isText) (l := ls)
  rw [takeBody]
  cases hcore : takeCore (ls.dropWhile Lexeme.isText) with
  | mk c rest =>
      cases c with
      | none =>
          obtain rfl := eq_of_takeCore_none hcore
          exact ⟨_, [], [], hlead.symm, htext ls, .inl rfl, List.forall_mem_nil _, fun _ => rfl⟩
      | some c =>
          obtain ⟨core, hls, hcore, -, hnames⟩ := isCore_of_takeCore hcore
          refine ⟨_, core, rest.takeWhile Lexeme.isText, ?_, htext ls, .inr hcore, htext rest,
            fun _ => hnames⟩
          rw [List.takeWhile_append_dropWhile, ← hls, hlead]

/-- A core starts with a lexeme that is no text. -/
theorem IsCore.exists_cons (h : IsCore core) : ∃ l rest, core = l :: rest ∧ l.startsCore := by
  cases h with
  | name hl => exact ⟨_, _, rfl, .inl hl⟩
  | regexp hl => exact ⟨_, _, rfl, .inr (.inl hl)⟩
  | nameRegexp hl _ => exact ⟨_, _, rfl, .inl hl⟩
  | asterisk hl => exact ⟨_, _, rfl, .inr (.inr hl)⟩

/-- Text is read up to a core or a closing brace. -/
theorem text_append {lead : List Lexeme} {l : Lexeme} (hlead : ∀ l ∈ lead, l.isText)
    (hl : l.startsCore ∨ l.kind = .closing) (behind : List Lexeme) :
    (lead ++ l :: behind).takeWhile Lexeme.isText = lead ∧
      (lead ++ l :: behind).dropWhile Lexeme.isText = l :: behind := by
  have hl : l.isText = false := by
    rcases hl with (hl | hl | hl) | hl <;> simp [Lexeme.isText, hl]
  rw [List.takeWhile_append_of_pos hlead, List.dropWhile_append_of_pos hlead]
  simp [hl]

/-- Text around at most one core, in front of a closing brace, is read as such. -/
theorem takeBody_append {lead trail : List Lexeme} {closing : Lexeme}
    (hlead : ∀ l ∈ lead, l.isText) (hcore : core = [] ∨ IsCore core)
    (htrail : ∀ l ∈ trail, l.isText) (hclosing : closing.kind = .closing)
    (behind : List Lexeme) :
    ∃ body, takeBody (lead ++ (core ++ (trail ++ closing :: behind))) = (body, closing :: behind) ∧
      ∀ m, (Item.ofBody body m).name?.toList = namesAmong core := by
  rcases hcore with rfl | hcore
  · have hall : ∀ l ∈ lead ++ trail, l.isText := List.forall_mem_append.2 ⟨hlead, htrail⟩
    obtain ⟨htake, hdrop⟩ := text_append hall (.inr hclosing) behind
    have hnone : takeCore (closing :: behind) = (none, closing :: behind) := by
      obtain ⟨kind, start, value⟩ := closing
      obtain rfl : kind = .closing := hclosing
      rfl
    refine ⟨(textOf (lead ++ trail), none), ?_, fun _ => rfl⟩
    rw [List.nil_append, ← List.append_assoc, takeBody, htake, hdrop, hnone]
  · -- neither text nor the closing brace is a regular expression that a name could take
    have hends : EndsCore core (trail ++ closing :: behind) := by
      intro l _ _
      refine (forall_head?_append (by simp [hclosing]) behind).2 fun r hr hkind => ?_
      simpa [Lexeme.isText, hkind] using htrail r (List.mem_of_mem_head? hr)
    obtain ⟨c, htakeCore, hnames⟩ := takeCore_of_isCore hcore hends
    obtain ⟨l, rest, rfl, hl⟩ := hcore.exists_cons
    rw [List.cons_append] at htakeCore
    obtain ⟨htake, hdrop⟩ :=
      text_append hlead (.inl hl) (rest ++ (trail ++ closing :: behind))
    obtain ⟨htake', hdrop'⟩ := text_append htrail (.inr hclosing) behind
    refine ⟨(textOf lead, some (c, textOf trail)), ?_, fun _ => hnames⟩
    rw [List.cons_append, takeBody, htake, hdrop, htakeCore]
    dsimp only
    rw [htake', hdrop']

/-- Between braces only the core gives a name. -/
theorem namesAmong_braces {opening closing : Lexeme} {lead trail : List Lexeme}
    (hopening : opening.kind = .opening) (hlead : ∀ l ∈ lead, l.isText)
    (htrail : ∀ l ∈ trail, l.isText) (hclosing : closing.kind = .closing) :
    namesAmong (opening :: (lead ++ (core ++ (trail ++ closing :: behind)))) =
      namesAmong core ++ namesAmong behind := by
  rw [namesAmong_cons_of_ne (by simp [hopening]), namesAmong_append, namesAmong_append,
    namesAmong_append, namesAmong_cons_of_ne (by simp [hclosing]), namesAmong_text hlead,
    namesAmong_text htrail]
  rfl

/-! ### Reading all items -/

section Finish

variable {e : Lexeme} (he : e.kind = .finish) (rest : List Lexeme)

include he

/-- The end of a pattern is no regular expression. -/
theorem endsCore_append_finish_iff : EndsCore core (ls ++ e :: rest) ↔ EndsCore core ls := by
  have hhead : (∀ r ∈ (ls ++ e :: rest).head?, r.kind ≠ .regexp) ↔
      ∀ r ∈ ls.head?, r.kind ≠ .regexp := forall_head?_append (by simp [he]) rest
  simp only [EndsCore, hhead]

/-- The end of a pattern is no modifier. -/
theorem endsItem_append_finish_iff :
    EndsItem modifier (ls ++ e :: rest) ↔ EndsItem modifier ls := by
  have hhead : (∀ l ∈ (ls ++ e :: rest).head?, ¬ l.IsModifier) ↔
      ∀ l ∈ ls.head?, ¬ l.IsModifier :=
    forall_head?_append (by simp [Lexeme.IsModifier, he]) rest
  constructor
  · rintro (hl | hl)
    · exact .modified hl
    · exact .once (hhead.1 hl)
  · rintro (hl | hl)
    · exact .modified hl
    · exact .once (hhead.2 hl)

/-- **Items in front of the end are read up to it**, and what is read from them gives their
names. -/
theorem Items.complete (h : Items ls) :
    (Reading.ofLexemes (ls ++ e :: rest)).ending = .complete ∧
      givenNames (Reading.ofLexemes (ls ++ e :: rest)).items = namesAmong ls := by
  induction h with
  | nil =>
      rw [List.nil_append, Reading.ofLexemes, he]
      exact ⟨rfl, rfl⟩
  | @text l ls hl _ ih =>
      rw [Lexeme.isText, Bool.or_eq_true_iff, beq_iff_eq, beq_iff_eq] at hl
      rw [List.cons_append, Reading.ofLexemes]
      rcases hl with hkind | hkind
      all_goals
        rw [hkind, namesAmong_cons_of_ne (by simp [hkind])]
        exact ih
  | @capture core modifier ls hcore hends hmodifier _ ih =>
      obtain ⟨hending, hnames⟩ := ih
      rw [← endsCore_append_finish_iff he rest, List.append_assoc] at hends
      obtain ⟨c, htake, hname⟩ := takeCore_of_isCore hcore hends
      have hbehind := ((endsItem_append_finish_iff he rest).2 hmodifier).takeModifier_append
      obtain ⟨l, core', rfl, hl⟩ := hcore.exists_cons
      rw [List.cons_append] at htake
      rw [List.append_assoc, List.append_assoc, List.cons_append, ofLexemes_bare hl htake, hbehind]
      refine ⟨hending, ?_⟩
      rw [Reading.cons, givenNames_cons, hnames, namesAmong_append, namesAmong_append,
        hmodifier.namesAmong_eq_nil, ← hname]
      rfl
  | @braces opening closing lead core trail modifier ls hopening hlead hcore htrail hclosing
      hmodifier _ ih =>
      obtain ⟨hending, hnames⟩ := ih
      have hbehind := ((endsItem_append_finish_iff he rest).2 hmodifier).takeModifier_append
      obtain ⟨body, htake, hname⟩ :=
        takeBody_append hlead hcore htrail hclosing (modifier ++ (ls ++ e :: rest))
      rw [namesAmong_braces hopening hlead htrail hclosing, namesAmong_append,
        hmodifier.namesAmong_eq_nil]
      obtain ⟨kind, start, value⟩ := opening
      obtain rfl : kind = .opening := hopening
      simp only [List.cons_append, List.append_assoc]
      rw [ofLexemes_braces htake hclosing, hbehind]
      refine ⟨hending, ?_⟩
      rw [Reading.cons, givenNames_cons, hnames, hname]
      rfl

end Finish

/-- **Lexemes that are read up to the end are items in front of it**, and give the names that the
items read from them give. -/
theorem items_of_complete (h : (Reading.ofLexemes ls).ending = .complete) :
    ∃ front e rest, ls = front ++ e :: rest ∧ e.kind = .finish ∧ Items front ∧
      givenNames (Reading.ofLexemes ls).items = namesAmong front := by
  fun_induction Reading.ofLexemes ls with
  | case1 | case5 | case7 | case8 => cases h
  | case2 l rest hk => exact ⟨[], l, rest, rfl, hk, .nil, rfl⟩
  | case3 l rest hk ih | case4 l rest hk ih =>
      obtain ⟨front, e, behind, rfl, he, hfront, hnames⟩ := ih h
      refine ⟨l :: front, e, behind, rfl, he, .text (by simp [Lexeme.isText, hk]) hfront, ?_⟩
      rw [namesAmong_cons_of_ne (by simp [hk])]
      exact hnames
  | case6 l rest hk body close behind hbody hclose m ih =>
      obtain ⟨front, e, last, hls, he, hfront, hnames⟩ := ih h
      obtain ⟨modifier, hmodifier, hends⟩ := endsItem_of_takeModifier behind
      obtain ⟨lead, core, trail, hrest, hlead, hcore, htrail, hname⟩ := exists_body rest
      rw [hls] at hmodifier hends
      have hends := (endsItem_append_finish_iff he last).1 hends
      rw [hbody, hmodifier] at hrest
      refine ⟨l :: (lead ++ (core ++ (trail ++ close :: (modifier ++ front)))), e, last,
        by simp [hrest], he, .braces hk hlead hcore htrail hclose hends hfront, ?_⟩
      rw [Reading.cons, givenNames_cons, hnames, hname,
        namesAmong_braces hk hlead htrail hclose, namesAmong_append, hends.namesAmong_eq_nil]
      rfl
  | case9 l rest c behind hcore m hk1 hk2 hk3 hk4 ih =>
      obtain ⟨front, e, last, hls, he, hfront, hnames⟩ := ih h
      obtain ⟨modifier, hmodifier, hends⟩ := endsItem_of_takeModifier behind
      obtain ⟨core, hrest, hcore, htakes, hname⟩ := isCore_of_takeCore hcore
      rw [hls] at hmodifier hends
      have hends := (endsItem_append_finish_iff he last).1 hends
      rw [hmodifier, ← List.append_assoc, endsCore_append_finish_iff he last] at htakes
      rw [hmodifier] at hrest
      refine ⟨core ++ (modifier ++ front), e, last, by simp [hrest], he,
        .capture hcore htakes hends hfront, ?_⟩
      rw [Reading.cons, givenNames_cons, hnames, namesAmong_append, namesAmong_append,
        hends.namesAmong_eq_nil, ← hname]
      rfl

/-! ### Names that are given once -/

/-- The names differ from each other and from those that are given already. -/
def Naming.Permits (names : Naming) (given : List Text) : Prop :=
  given.Nodup ∧ ∀ n ∈ given, n ∉ names.used

/-- A name is permitted in front of others if it can be given and they are permitted then. -/
theorem Naming.permits_append_iff {names : Naming} {given : Option Text} {later : List Text} :
    names.Permits (given.toList ++ later) ↔
      ∃ name names', names.assign given = .ok (name, names') ∧ names'.Permits later := by
  cases given with
  | none => simp [Naming.assign, Naming.Permits]
  | some n =>
      rw [Naming.assign]
      constructor
      · rintro ⟨hnodup, hused⟩
        obtain ⟨hn, hlater⟩ := List.nodup_cons.1 hnodup
        refine ⟨_, _, if_neg (hused n List.mem_cons_self), hlater, fun k hk hmem => ?_⟩
        rcases List.mem_cons.1 hmem with rfl | hmem
        · exact hn hk
        · exact hused k (List.mem_cons_of_mem n hk) hmem
      · rintro ⟨name, names', hassign, hlater, hused⟩
        split at hassign
        · cases hassign
        · rename_i hn
          cases hassign
          refine ⟨List.nodup_cons.2 ⟨fun hmem => hused n hmem List.mem_cons_self, hlater⟩, ?_⟩
          exact List.forall_mem_cons.2
            ⟨hn, fun k hk hmem => hused k hk (List.mem_cons_of_mem n hmem)⟩

/-- Where any text is its own canonical form, a capture fails only if its name is given. -/
theorem exists_thenCapture_plain_iff {pending lead trail : Text} {names : Naming} {c : Core}
    {m : Modifier} {behind : Naming → Except Error (List Part)} {P : Prop} {later : List Text}
    (hbehind : ∀ names, (∃ parts, behind names = .ok parts) ↔ P ∧ names.Permits later) :
    (∃ parts, thenCapture o.plain pending names lead c trail m behind = .ok parts) ↔
      P ∧ names.Permits (c.name?.toList ++ later) := by
  simp only [Naming.permits_append_iff, thenCapture, captureOf, bind_eq_ok,
    gathered_plain, canonical_plain, Except.ok.injEq, exists_eq_left']
  constructor
  · rintro ⟨_, _, ⟨⟨name, names'⟩, hassign, ⟨⟩⟩, parts, hparts, -⟩
    obtain ⟨hP, hpermits⟩ := (hbehind names').1 ⟨parts, hparts⟩
    exact ⟨hP, name, names', hassign, hpermits⟩
  · rintro ⟨hP, name, names', hassign, hpermits⟩
    obtain ⟨parts, hparts⟩ := (hbehind names').2 ⟨hP, hpermits⟩
    exact ⟨_, _, ⟨⟨name, names'⟩, hassign, rfl⟩, parts, hparts, rfl⟩

/-- **Items stand for parts exactly if they give no name twice**, where any text is its own
canonical form. -/
theorem exists_partsOf_plain_iff {ending : Ending} {pending : Text} {names : Naming}
    {items : List Item} :
    (∃ parts, partsOf o.plain ending pending names items = .ok parts) ↔
      ending = .complete ∧ names.Permits (givenNames items) := by
  fun_induction partsOf o.plain ending pending names items with
  | case1 pending names =>
      subst ending
      simp [gathered_plain, givenNames, Naming.Permits]
  | case2 pending names i found =>
      subst ending
      simp [bind_eq_ok]
  | case3 =>
      subst ending
      simp
  | case4 pending names value c m items h ih | case5 pending names value c m items h ih =>
      rw [givenNames_cons, givenNames_cons]
      exact exists_thenCapture_plain_iff ih
  | case6 pending names value items h ih | case7 pending names value items ih
  | case9 pending names value items ih | case10 pending names m items hm ih =>
      -- text changes what has gathered and gives no name
      exact ih
  | case8 pending names c m items ih | case12 pending names lead c trail m items ih =>
      rw [givenNames_cons]
      exact exists_thenCapture_plain_iff ih
  | case11 pending names value m items hm hv ih =>
      rw [givenNames_cons]
      refine Iff.trans ?_ ih
      simp only [bind_eq_ok, gathered_plain, canonical_plain, Except.ok.injEq, exists_eq_left']
      constructor
      · rintro ⟨_, parts, hparts, -⟩
        exact ⟨parts, hparts⟩
      · rintro ⟨parts, hparts⟩
        exact ⟨_, parts, hparts, rfl⟩

/-! ### Patterns -/

/-- **The patterns.** Where any text is its own canonical form, a text is a pattern exactly if it
is read strictly, the lexemes in front of the end are items, and the names among them differ. -/
theorem exists_parse_plain_iff {t : Text} :
    (∃ parts, parse o.plain t = .ok parts) ↔
      ∃ ls e, lex .strict t = .ok (ls ++ [e]) ∧ e.kind = .finish ∧ (namesAmong ls).Nodup ∧
        Items ls := by
  have hparts (ls : List Lexeme) :
      (∃ parts, partsOf o.plain (Reading.ofLexemes ls).ending [] .empty
        (Reading.ofLexemes ls).items = .ok parts) ↔
      (Reading.ofLexemes ls).ending = .complete ∧
        (givenNames (Reading.ofLexemes ls).items).Nodup := by
    simp [exists_partsOf_plain_iff, Naming.Permits, Naming.empty]
  constructor
  · rintro ⟨parts, h⟩
    obtain ⟨ls, hls, h⟩ := bind_eq_ok.1 h
    obtain ⟨hending, hnodup⟩ := (hparts ls).1 ⟨parts, h⟩
    obtain ⟨front, e, rest, rfl, he, hfront, hnames⟩ := items_of_complete hending
    -- the items were read up to the first end, and lexemes of a text have no other
    have hplaced := (placed_of_lexFrom hls).1.append (List.cons_ne_nil e rest)
    obtain ⟨-, rfl⟩ := hplaced.eq_finish he
    exact ⟨front, e, hls, he, hnames ▸ hnodup, hfront⟩
  · rintro ⟨ls, e, hls, he, hnodup, hitems⟩
    obtain ⟨hending, hnames⟩ := hitems.complete he []
    obtain ⟨parts, h⟩ := (hparts _).2 ⟨hending, hnames ▸ hnodup⟩
    exact ⟨parts, bind_eq_ok.2 ⟨_, hls, h⟩⟩

/-- The asterisk is the modifier of the name and starts no capture, so the question mark behind it
is the modifier of nothing. -/
example : parse .default ":a*?".toList = .error (.unexpected 3 .modifier .finish) := by
  decide +kernel

end UrlMatch.Pattern
