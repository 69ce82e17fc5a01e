import SchemaTypings.Proofs.Grouping

/-! # Texts can be read

No two proper phrases have the same text.  Every phrase is told by its first character, ends where
the character behind it cannot continue it, and its parts stand between separators that no part
can begin with.  Suffixes `[]` are counted apart from what stands before them.
-/
namespace SchemaTypings

/-! ### Quoted text -/

namespace Json

/-- The characters that do not stand for themselves in a string. -/
def escaped : List Char := '"' :: '\\' :: (List.range 32).map Char.ofNat

theorem escapeChar_of_not_mem {c : Char} (h : c ∉ escaped) : escapeChar c = [c] := by
  have hlow : ¬ c.toNat < 32 := by
    intro hlt
    refine h (List.mem_cons_of_mem _ (List.mem_cons_of_mem _ (List.mem_map.2 ⟨c.toNat, ?_, ?_⟩)))
    · exact List.mem_range.2 hlt
    · exact Char.ofNat_toNat c
  have hne : ∀ d ∈ escaped, c ≠ d := fun d hd heq => h (heq ▸ hd)
  have hcontrols : ∀ d ∈ ['"', '\\', '\n', '\r', '\t', '\x08', '\x0c'], d ∈ escaped :=
    List.all_iff_forall_prop.1 (by decide)
  have hlower : ¬ c.toNat < 0x10 := fun hlt => hlow (by omega)
  simp only [escapeChar, hne _ (hcontrols _ (by decide : '"' ∈ _)),
    hne _ (hcontrols _ (by decide : '\\' ∈ _)), hne _ (hcontrols _ (by decide : '\n' ∈ _)),
    hne _ (hcontrols _ (by decide : '\r' ∈ _)), hne _ (hcontrols _ (by decide : '\t' ∈ _)),
    hne _ (hcontrols _ (by decide : '\x08' ∈ _)), hne _ (hcontrols _ (by decide : '\x0c' ∈ _)),
    hlower, hlow, if_false]

/-- No escape continues another one. -/
theorem eq_of_escape_begins : ∀ c ∈ escaped, ∀ d ∈ escaped,
    escapeChar c <+: escapeChar d → c = d := by
  have hall : (escaped.all fun c => escaped.all fun d =>
      escapeChar c <+: escapeChar d → c = d) = true := by
    decide
  intro c hc
  exact List.all_iff_forall_prop.1 (List.all_eq_true.1 hall c hc)

theorem head?_escape : ∀ c ∈ escaped, (escapeChar c).head? = some '\\' :=
  List.all_iff_forall_prop.1 (by decide)

/-- The first character of an escape is a backslash, and that of any other character itself. -/
theorem head?_escapeChar (c : Char) :
    (escapeChar c).head? = some (if c ∈ escaped then '\\' else c) := by
  split
  · next h => exact head?_escape c h
  · next h => rw [escapeChar_of_not_mem h, List.head?_cons]

theorem escapeChar_injective {c d : Char} {x y : List Char}
    (h : escapeChar c ++ x = escapeChar d ++ y) : c = d ∧ x = y := by
  have hcd : c = d := by
    have hhead := congrArg List.head? h
    rw [List.head?_append, List.head?_append, head?_escapeChar, head?_escapeChar] at hhead
    have hback : '\\' ∈ escaped := by decide
    by_cases hc : c ∈ escaped <;> by_cases hd : d ∈ escaped <;> simp only [hc, hd, if_true,
      if_false, Option.some_or, Option.some.injEq] at hhead
    · have hprefix : escapeChar c <+: escapeChar d ++ y := ⟨x, h⟩
      rcases List.prefix_or_prefix_of_prefix hprefix (List.prefix_append _ y) with hp | hp
      · exact eq_of_escape_begins c hc d hd hp
      · exact (eq_of_escape_begins d hd c hc hp).symm
    · exact absurd (hhead ▸ hback) hd
    · exact absurd (hhead ▸ hback) hc
    · exact hhead
  subst hcd
  exact ⟨rfl, List.append_cancel_left h⟩

theorem escape_injective {cs ds x y : List Char}
    (h : cs.flatMap escapeChar ++ '"' :: x = ds.flatMap escapeChar ++ '"' :: y) :
    cs = ds ∧ x = y := by
  have hquote : ∀ (c : Char) (z w : List Char), '"' :: z ≠ escapeChar c ++ w := by
    intro c z w heq
    have hhead := congrArg List.head? heq
    rw [List.head?_append, head?_escapeChar, List.head?_cons, Option.some_or,
      Option.some.injEq] at hhead
    split at hhead
    · exact absurd hhead (by decide)
    · next hc => exact hc (hhead ▸ List.mem_cons_self ..)
  induction cs generalizing ds with
  | nil =>
    cases ds with
    | nil => exact ⟨rfl, (List.cons.inj h).2⟩
    | cons d ds =>
      rw [List.flatMap_cons, List.append_assoc] at h
      exact absurd h (hquote d _ _)
  | cons c cs ih =>
    rw [List.flatMap_cons, List.append_assoc] at h
    cases ds with
    | nil => exact absurd h.symm (hquote c _ _)
    | cons d ds =>
      rw [List.flatMap_cons, List.append_assoc] at h
      obtain ⟨rfl, hrest⟩ := escapeChar_injective h
      obtain ⟨rfl, hxy⟩ := ih hrest
      exact ⟨rfl, hxy⟩

theorem quote_injective {s t : String} {x y : List Char}
    (h : (quote s).toList ++ x = (quote t).toList ++ y) : s = t ∧ x = y := by
  simp only [quote, String.toList_ofList, List.cons_append, List.append_assoc, List.nil_append,
    List.cons.injEq, true_and] at h
  obtain ⟨hst, hxy⟩ := escape_injective h
  exact ⟨String.toList_inj.1 hst, hxy⟩

end Json

namespace Phrase

/-! ### Words -/

/-- The characters of a phrase. -/
def chars (p : Phrase) : List Char := p.text.toList

/-- What comes next does not continue a word. -/
def Stops (x : List Char) : Prop := ∀ c ∈ x.head?, isWordChar c = false

theorem plain_injective {s t : String} (hs : IsPlain s) (ht : IsPlain t) {x y : List Char}
    (hx : Stops x) (hy : Stops y) (h : s.toList ++ x = t.toList ++ y) : s = t ∧ x = y := by
  have htake : ∀ {u : String} {z : List Char}, IsPlain u → Stops z →
      (u.toList ++ z).takeWhile isWordChar = u.toList := by
    intro u z hu hz
    rw [List.takeWhile_append_of_pos hu.chars]
    cases z with
    | nil => simp
    | cons c cs => simp [hz c (by simp)]
  have hst : s.toList = t.toList := by
    rw [← htake hs hx, h, htake ht hy]
  refine ⟨String.toList_inj.1 hst, ?_⟩
  rw [hst] at h
  exact List.append_cancel_left h

theorem word_injective {s t : String} (hs : IsWord s) (ht : IsWord t) {x y : List Char}
    (hx : Stops x) (hy : Stops y) (h : s.toList ++ x = t.toList ++ y) : s = t ∧ x = y := by
  have hmixed : ∀ {u v : String} {z w : List Char}, IsPlain u →
      u.toList ++ z ≠ (Json.quote v).toList ++ w := by
    intro u v z w hu heq
    obtain ⟨c, cs, hc, hword, -⟩ := hu.exists_cons
    rw [hc, Json.quote, String.toList_ofList] at heq
    rw [(List.cons.inj heq).1] at hword
    exact absurd hword (by decide)
  rcases hs with hs | ⟨s, rfl⟩ <;> rcases ht with ht | ⟨t, rfl⟩
  · exact plain_injective hs ht hx hy h
  · exact absurd h (hmixed hs)
  · exact absurd h.symm (hmixed ht)
  · obtain ⟨rfl, hxy⟩ := Json.quote_injective h
    exact ⟨rfl, hxy⟩

/-! ### Suffixes -/

/-- What stands before the suffixes of an array. -/
def core : Phrase → Phrase
  | array p => core p
  | p => p

/-- The number of suffixes. -/
def suffixes : Phrase → Nat
  | array p => suffixes p + 1
  | _ => 0

/-- A number of suffixes. -/
def brackets : Nat → List Char
  | 0 => []
  | n + 1 => '[' :: ']' :: brackets n

theorem brackets_succ (n : Nat) : brackets (n + 1) = brackets n ++ ['[', ']'] := by
  induction n with
  | zero => rfl
  | succ n ih => exact congrArg (fun cs => '[' :: ']' :: cs) ih

theorem chars_eq_core (p : Phrase) : p.chars = p.core.chars ++ brackets p.suffixes := by
  fun_induction core p with
  | case1 p ih =>
    have harray : (array p).chars = p.chars ++ ['[', ']'] := by
      rw [chars, text, String.toList_append]
      rfl
    rw [harray, ih, suffixes, brackets_succ, List.append_assoc]
  | case2 p hp =>
    have hzero : p.suffixes = 0 := by
      cases p <;> first | rfl | exact absurd rfl (hp _)
    rw [hzero, brackets, List.append_nil]

/-- A phrase without suffixes is its own core. -/
theorem core_of_suffixes {p : Phrase} (h : p.suffixes = 0) : p.core = p := by
  cases p <;> first | rfl | exact absurd h (Nat.succ_ne_zero _)

theorem suffixes_core (p : Phrase) : p.core.suffixes = 0 := by
  fun_induction core p with
  | case1 p ih => exact ih
  | case2 p hp =>
    cases p <;> first | rfl | exact absurd rfl (hp _)

theorem eq_of_core_eq {p q : Phrase} (hcore : p.core = q.core) (hsuffixes : p.suffixes = q.suffixes) :
    p = q := by
  induction hn : p.suffixes generalizing p q with
  | zero => rw [← core_of_suffixes hn, hcore, core_of_suffixes (hsuffixes ▸ hn)]
  | succ n ih =>
    have hp : ∃ p', p = array p' := by
      cases p <;> first | exact ⟨_, rfl⟩ | cases hn
    have hq : ∃ q', q = array q' := by
      rw [hsuffixes] at hn
      cases q <;> first | exact ⟨_, rfl⟩ | cases hn
    obtain ⟨p', rfl⟩ := hp
    obtain ⟨q', rfl⟩ := hq
    exact congrArg array (ih hcore (Nat.succ.inj hsuffixes) (Nat.succ.inj hn))

/-- What comes next ends a closed phrase: a blank, a separator or a closing bracket. -/
def Ends (x : List Char) : Prop := ∀ c ∈ x.head?, c ∈ [' ', ',', ';', ')', ']']

theorem Ends.stops {x : List Char} (h : Ends x) : Stops x := by
  intro c hc
  have hends : ∀ d ∈ [' ', ',', ';', ')', ']'], isWordChar d = false :=
    List.all_iff_forall_prop.1 (by decide)
  exact hends c (h c hc)

theorem brackets_injective {m n : Nat} {x y : List Char} (hx : Ends x) (hy : Ends y)
    (h : brackets m ++ x = brackets n ++ y) : m = n ∧ x = y := by
  have hne : ∀ {k : Nat} {z w : List Char}, Ends z → z ≠ brackets (k + 1) ++ w := by
    intro k z w hz heq
    exact absurd (hz '[' (by rw [heq]; rfl)) (by decide)
  induction m generalizing n with
  | zero =>
    cases n with
    | zero => exact ⟨rfl, h⟩
    | succ n => exact absurd h (hne hx)
  | succ m ih =>
    cases n with
    | zero => exact absurd h.symm (hne hy)
    | succ n =>
      obtain ⟨rfl, hxy⟩ := ih (List.cons.inj (List.cons.inj h).2).2
      exact ⟨rfl, hxy⟩

/-! ### Sequences -/

/-- A sequence is read back where each part is, and where the separator stands at no other place.
`F` says what may come behind a part. -/
theorem intercalate_injective {F : List Char → Prop} {sep : List Char} {ps qs : List Phrase}
    (hps : ps ≠ []) (hqs : qs ≠ [])
    (hread : ∀ p ∈ ps, ∀ q ∈ qs, ∀ x y, F x → F y → p.chars ++ x = q.chars ++ y → p = q ∧ x = y)
    (hsep : ∀ x, F (sep ++ x)) {x y : List Char} (hx : F x) (hy : F y) (hsx : ¬ sep <+: x)
    (hsy : ¬ sep <+: y)
    (h : sep.intercalate (ps.map chars) ++ x = sep.intercalate (qs.map chars) ++ y) :
    ps = qs ∧ x = y := by
  induction ps generalizing qs with
  | nil => exact absurd rfl hps
  | cons p ps ih =>
    match qs, hqs with
    | q :: qs, _ =>
      have hpq := hread p (List.mem_cons_self ..) q (List.mem_cons_self ..)
      cases ps with
      | nil =>
        cases qs with
        | nil =>
          obtain ⟨rfl, hxy⟩ := hpq x y hx hy (by simpa using h)
          exact ⟨rfl, hxy⟩
        | cons q' qs =>
          obtain ⟨-, hxy⟩ := hpq x _ hx (hsep _) (by simpa using h)
          exact absurd ⟨_, hxy.symm⟩ hsx
      | cons p' ps =>
        cases qs with
        | nil =>
          obtain ⟨-, hxy⟩ := hpq _ y (hsep _) hy (by simpa using h)
          exact absurd ⟨_, hxy⟩ hsy
        | cons q' qs =>
          simp only [List.map_cons, List.intercalate_cons_cons, List.append_assoc] at h
          obtain ⟨rfl, hrest⟩ := hpq _ _ (hsep _) (hsep _) h
          obtain ⟨heq, hxy⟩ := ih (List.cons_ne_nil _ _) (List.cons_ne_nil _ _)
            (fun r hr r' hr' => hread r (List.mem_cons_of_mem _ hr) r' (List.mem_cons_of_mem _ hr'))
            (List.append_cancel_left hrest)
          exact ⟨congrArg (p :: ·) heq, hxy⟩

/-! ### Phrases -/

/-- What comes next ends a phrase that may show alternatives. -/
structure EndsOpen (x : List Char) : Prop where
  ends : Ends x
  noBar : ¬ [' ', '|'] <+: x

/-- **A phrase that is read back** from its text and what comes behind it.  Suffixes of a closed
phrase are left to what comes behind. -/
def Readable : Grade → Phrase → Prop
  | .closed, p => ∀ q x y, Proper .closed q → Stops x → Stops y → p.chars ++ x = q.chars ++ y →
      p.core = q.core ∧ brackets p.suffixes ++ x = brackets q.suffixes ++ y
  | grade, p => ∀ q x y, Proper grade q → EndsOpen x → EndsOpen y → p.chars ++ x = q.chars ++ y →
      p = q ∧ x = y

theorem Readable.closed_eq {p q : Phrase} (h : Readable .closed p) (hq : Proper .closed q)
    {x y : List Char} (hx : Ends x) (hy : Ends y) (heq : p.chars ++ x = q.chars ++ y) :
    p = q ∧ x = y := by
  obtain ⟨hcore, hrest⟩ := h q x y hq hx.stops hy.stops heq
  obtain ⟨hsuffixes, hxy⟩ := brackets_injective hx hy hrest
  exact ⟨eq_of_core_eq hcore hsuffixes, hxy⟩

theorem chars_array (p : Phrase) : (array p).chars = p.chars ++ ['[', ']'] := by
  rw [chars, text, String.toList_append]
  rfl

theorem chars_group (isUnion : Bool) (ps : List Phrase) : (group isUnion ps).chars =
    '(' :: ((operator isUnion).toList.intercalate (ps.map chars) ++ [')']) := by
  rw [chars, text, String.toList_append, String.toList_append, String.toList_intercalate,
    List.map_map]
  rfl

theorem chars_tuple (items : List Phrase) :
    (tuple items).chars = '[' :: ([',', ' '].intercalate (items.map chars) ++ [']']) := by
  rw [chars, text, String.toList_append, String.toList_append, String.toList_intercalate,
    List.map_map]
  rfl

theorem chars_spread (p : Phrase) : (spread p).chars = ['.', '.', '.'] ++ (array p).chars := by
  rw [chars, text, String.toList_append, chars, text]
  rfl

theorem chars_record (p : Phrase) (ps : List Phrase) : (record (p :: ps)).chars =
    ['\x7b', ' '] ++ ([';', ' '].intercalate ((p :: ps).map chars) ++ [' ', '\x7d']) := by
  have htext : (record (p :: ps)).text =
      "\x7b " ++ "; ".intercalate ((p :: ps).map text) ++ " \x7d" := by
    rw [text]
    rfl
  rw [chars, htext, String.toList_append, String.toList_append, String.toList_intercalate,
    List.map_map, List.append_assoc]
  rfl

theorem chars_record_nil : (record []).chars = ['\x7b', '\x7d'] := by
  rw [chars, text]
  rfl

theorem chars_field (f : Field) (p : Phrase) :
    (field f p).chars = f.text.toList ++ ([':', ' '] ++ p.chars) := by
  rw [chars, text, String.toList_append, String.toList_append, List.append_assoc]
  rfl

theorem chars_open (p : Phrase) :
    p.chars = [' ', '|', ' '].intercalate (p.alternatives.map chars) := by
  cases p with
  | either ps =>
    rw [chars, text, String.toList_intercalate, List.map_map]
    rfl
  | _ => simp [alternatives]

/-- The characters that a type expression begins with. -/
def leads (c : Char) : Bool :=
  c = '"' || (isWordChar c && c ≠ '.') || c ∈ ['(', '[', '\x7b']

theorem exists_head_word {s : String} (h : IsWord s) :
    ∃ c cs, s.toList = c :: cs ∧ (c = '"' ∨ isWordChar c = true ∧ c ≠ '.') := by
  rcases h with h | ⟨t, rfl⟩
  · obtain ⟨c, cs, hs, hc⟩ := h.exists_cons
    exact ⟨c, cs, hs, Or.inr hc⟩
  · exact ⟨'"', _, String.toList_ofList, Or.inl rfl⟩

/-- A type expression is not empty; only a spread begins with a dot. -/
theorem Proper.exists_head {grade : Grade} {p : Phrase} (h : Proper grade p)
    (hgrade : grade ≠ .field) :
    ∃ c cs, p.chars = c :: cs ∧ (leads c = true ∨ c = '.' ∧ ∃ q, p = .spread q) := by
  induction h with
  | word h =>
    obtain ⟨c, cs, hs, hc⟩ := exists_head_word h
    refine ⟨c, cs, by rw [chars, text, hs], Or.inl ?_⟩
    rcases hc with rfl | ⟨hword, hdot⟩
    · rfl
    · simp [leads, hword, hdot]
  | array h ih =>
    obtain ⟨c, cs, hp, hc⟩ := ih (by decide)
    refine ⟨c, cs ++ ['[', ']'], by rw [chars_array, hp, List.cons_append], Or.inl ?_⟩
    rcases hc with hc | ⟨-, q, rfl⟩
    · exact hc
    · cases h
  | group _ _ _ => exact ⟨_, _, chars_group .., Or.inl (by decide)⟩
  | tuple _ _ => exact ⟨_, _, chars_tuple .., Or.inl (by decide)⟩
  | @record fields _ _ =>
    cases fields with
    | nil => exact ⟨_, _, chars_record_nil, Or.inl (by decide)⟩
    | cons q fields => exact ⟨_, _, chars_record .., Or.inl (by decide)⟩
  | tight _ ih => exact ih (by decide)
  | @either ps hlen h ih =>
    obtain ⟨q, next, rest, rfl⟩ : ∃ q next rest, ps = q :: next :: rest := by
      rcases ps with - | ⟨q, - | ⟨next, rest⟩⟩
      · simp at hlen
      · simp at hlen
      · exact ⟨q, next, rest, rfl⟩
    obtain ⟨c, cs, hq, hc⟩ := ih q (List.mem_cons_self ..) (by decide)
    refine ⟨c, cs ++ ([' ', '|', ' '] ++
      [' ', '|', ' '].intercalate ((next :: rest).map chars)), ?_, Or.inl ?_⟩
    · rw [chars_open, alternatives, List.map_cons, List.map_cons, List.intercalate_cons_cons, hq,
        List.append_assoc]
      rfl
    · rcases hc with hc | ⟨-, r, rfl⟩
      · exact hc
      · cases h _ (List.mem_cons_self ..)
  | item _ ih => exact ih (by decide)
  | spread _ _ => exact ⟨_, _, chars_spread _, Or.inr ⟨rfl, _, rfl⟩⟩
  | field _ _ => exact absurd rfl hgrade

/-- For a phrase without suffixes it is enough to be told from others without suffixes. -/
theorem readable_of_suffixes {p : Phrase} (hzero : p.suffixes = 0)
    (h : ∀ q x y, Proper .closed q → q.suffixes = 0 → Stops x → Stops y →
      p.chars ++ x = q.chars ++ y → p = q ∧ x = y) : Readable .closed p := by
  have hproper : ∀ {q : Phrase}, Proper .closed q → Proper .closed q.core := by
    intro q hq
    fun_induction core q with
    | case1 q ih =>
      cases hq with
      | array hq => exact ih hq
    | case2 q _ => exact hq
  have hstops : ∀ {n : Nat} {y : List Char}, Stops y → Stops (brackets n ++ y) := by
    intro n y hy
    cases n with
    | zero => exact hy
    | succ n =>
      intro c hc
      rw [brackets, List.cons_append, List.head?_cons, Option.mem_some_iff] at hc
      rw [← hc]
      decide
  intro q x y hq hx hy heq
  rw [chars_eq_core q, List.append_assoc] at heq
  obtain ⟨hpq, hxy⟩ := h q.core x _ (hproper hq) (suffixes_core q) hx (hstops hy) heq
  exact ⟨(core_of_suffixes hzero).trans hpq, by rw [hzero, brackets, List.nil_append, hxy]⟩

/-! ### Reading each form -/

/-- Phrases that begin with different characters are told by them. -/
theorem ne_of_head {p q : Phrase} {c d : Char} {cs ds x y : List Char} (hp : p.chars = c :: cs)
    (hq : q.chars = d :: ds) (hne : c ≠ d) : p.chars ++ x ≠ q.chars ++ y := by
  rw [hp, hq]
  exact fun heq => hne (List.cons.inj heq).1

/-- The first character of a record. -/
theorem exists_chars_record (ps : List Phrase) : ∃ cs, (record ps).chars = '\x7b' :: cs := by
  cases ps with
  | nil => exact ⟨_, chars_record_nil⟩
  | cons p ps => exact ⟨_, chars_record p ps⟩

/-- A word begins with no opening bracket. -/
theorem exists_chars_word {s : String} (hs : IsWord s) :
    ∃ c cs, (word s).chars = c :: cs ∧ ∀ d ∈ ['(', '[', '\x7b'], c ≠ d := by
  obtain ⟨c, cs, hc, hlead⟩ := exists_head_word hs
  refine ⟨c, cs, by rw [chars, text, hc], ?_⟩
  have hlist : ∀ d ∈ ['(', '[', '\x7b'], d ≠ '"' ∧ isWordChar d = false :=
    List.all_iff_forall_prop.1 (by decide)
  rintro d hd rfl
  rcases hlead with rfl | ⟨hword, -⟩
  · exact (hlist _ hd).1 rfl
  · rw [(hlist c hd).2] at hword
    cases hword

theorem readable_word {s : String} (hs : IsWord s) : Readable .closed (word s) := by
  refine readable_of_suffixes rfl fun q x y hq hzero hx hy heq => ?_
  obtain ⟨c, cs, hc, hne⟩ := exists_chars_word hs
  cases hq with
  | @word t ht =>
    rw [chars, chars, text, text] at heq
    obtain ⟨rfl, hxy⟩ := word_injective hs ht hx hy heq
    exact ⟨rfl, hxy⟩
  | array _ => cases hzero
  | group _ _ => exact absurd heq (ne_of_head hc (chars_group ..) (hne _ (by decide)))
  | tuple _ => exact absurd heq (ne_of_head hc (chars_tuple ..) (hne _ (by decide)))
  | @record fields _ =>
    obtain ⟨ds, hds⟩ := exists_chars_record fields
    exact absurd heq (ne_of_head hc hds (hne _ (by decide)))

theorem readable_array {p : Phrase} (h : Readable .closed p) : Readable .closed (array p) := by
  intro q x y hq hx hy heq
  rw [chars_array, List.append_assoc] at heq
  have hstops : Stops (['[', ']'] ++ x) := by
    intro c hc
    cases hc
    decide
  obtain ⟨hcore, hrest⟩ := h q _ y hq hstops hy heq
  refine ⟨hcore, ?_⟩
  rw [suffixes, brackets_succ, List.append_assoc]
  exact hrest

theorem ends_of_head {c : Char} {x : List Char} (hc : c ∈ [' ', ',', ';', ')', ']']) :
    Ends (c :: x) := by
  intro d hd
  cases hd
  exact hc

theorem toList_operator (isUnion : Bool) :
    (operator isUnion).toList = [' ', if isUnion then '|' else '&', ' '] := by
  cases isUnion <;> rfl

theorem readable_group {isUnion : Bool} {ps : List Phrase} (hlen : 2 ≤ ps.length)
    (h : ∀ p ∈ ps, Readable .closed p) : Readable .closed (group isUnion ps) := by
  refine readable_of_suffixes rfl fun q x y hq hzero hx hy heq => ?_
  cases hq with
  | @word t ht =>
    obtain ⟨c, cs, hc, hne⟩ := exists_chars_word ht
    exact absurd heq.symm (ne_of_head hc (chars_group ..) (hne _ (by decide)))
  | array _ => cases hzero
  | tuple _ => exact absurd heq (ne_of_head (chars_group ..) (chars_tuple ..) (by decide))
  | @record fields _ =>
    obtain ⟨ds, hds⟩ := exists_chars_record fields
    exact absurd heq (ne_of_head (chars_group ..) hds (by decide))
  | @group isUnion' qs hlen' hqs =>
    rw [chars_group, chars_group, List.cons_append, List.cons_append, List.append_assoc,
      List.append_assoc] at heq
    have hbody := (List.cons.inj heq).2
    have hclose : ∀ z : List Char, Ends ([')'] ++ z) := fun z => ends_of_head (by decide)
    -- the first separator tells the operator
    have hoperator : isUnion = isUnion' := by
      match ps, qs, hlen, hlen' with
      | p :: p' :: ps, q :: q' :: qs, _, _ =>
        simp only [List.map_cons, List.intercalate_cons_cons, List.append_assoc] at hbody
        have hblank : ∀ (b : Bool) (z : List Char), Ends ((operator b).toList ++ z) := by
          intro b z
          rw [toList_operator]
          exact ends_of_head (by decide)
        obtain ⟨-, hrest⟩ := (h p (List.mem_cons_self ..)).closed_eq
          (hqs q (List.mem_cons_self ..)) (hblank _ _) (hblank _ _) hbody
        rw [toList_operator, toList_operator] at hrest
        have hsecond := (List.cons.inj (List.cons.inj hrest).2).1
        cases isUnion <;> cases isUnion' <;> first | rfl | exact absurd hsecond (by decide)
    subst hoperator
    have hne : ∀ {rs : List Phrase}, 2 ≤ rs.length → rs ≠ [] := by
      rintro rs hrs rfl
      exact absurd hrs (by decide)
    obtain ⟨rfl, hxy⟩ := intercalate_injective (hne hlen) (hne hlen')
      (fun p hp q hq x y hx hy heq => (h p hp).closed_eq (hqs q hq) hx hy heq)
      (fun z => by rw [toList_operator]; exact ends_of_head (by decide)) (hclose x) (hclose y)
      (by simp [toList_operator]) (by simp [toList_operator]) hbody
    exact ⟨rfl, List.append_cancel_left hxy⟩

/-- Behind a phrase that may show alternatives stands no bar. -/
theorem endsOpen_of_head {c : Char} {x : List Char} (hc : c ∈ [',', ';', ')', ']']) :
    EndsOpen (c :: x) := by
  have hends : ∀ d ∈ [',', ';', ')', ']'], d ∈ [' ', ',', ';', ')', ']'] ∧ d ≠ ' ' :=
    List.all_iff_forall_prop.1 (by decide)
  refine ⟨ends_of_head (hends c hc).1, fun hbar => ?_⟩
  exact (hends c hc).2 (List.cons_prefix_cons.1 hbar).1.symm

theorem endsOpen_brace (x : List Char) : EndsOpen (' ' :: '\x7d' :: x) :=
  ⟨ends_of_head (by decide), by simp⟩

/-- The first character of a sequence of items is no closing bracket. -/
theorem ne_head_items {p : Phrase} (hp : Proper .item p) (ps : List Phrase) {sep x y : List Char} :
    ']' :: x ≠ sep.intercalate ((p :: ps).map chars) ++ y := by
  obtain ⟨c, cs, hc, hlead⟩ := hp.exists_head (by decide)
  have hne : c ≠ ']' := by
    rintro rfl
    rcases hlead with hlead | ⟨hdot, -⟩
    · exact absurd hlead (by decide)
    · exact absurd hdot (by decide)
  intro heq
  cases ps with
  | nil =>
    rw [List.map_cons, List.map_nil, List.intercalate_singleton, hc] at heq
    exact hne (List.cons.inj heq).1.symm
  | cons q ps =>
    rw [List.map_cons, List.map_cons, List.intercalate_cons_cons, hc] at heq
    exact hne (List.cons.inj heq).1.symm

theorem readable_tuple {items : List Phrase} (hitems : ∀ p ∈ items, Proper .item p)
    (h : ∀ p ∈ items, Readable .item p) : Readable .closed (tuple items) := by
  refine readable_of_suffixes rfl fun q x y hq hzero hx hy heq => ?_
  cases hq with
  | @word t ht =>
    obtain ⟨c, cs, hc, hne⟩ := exists_chars_word ht
    exact absurd heq.symm (ne_of_head hc (chars_tuple ..) (hne _ (by decide)))
  | array _ => cases hzero
  | group _ _ => exact absurd heq (ne_of_head (chars_tuple ..) (chars_group ..) (by decide))
  | @record fields _ =>
    obtain ⟨ds, hds⟩ := exists_chars_record fields
    exact absurd heq (ne_of_head (chars_tuple ..) hds (by decide))
  | @tuple items' hitems' =>
    rw [chars_tuple, chars_tuple, List.cons_append, List.cons_append, List.append_assoc,
      List.append_assoc] at heq
    have hbody := (List.cons.inj heq).2
    match items, items' with
    | [], [] => exact ⟨rfl, (List.cons.inj hbody).2⟩
    | [], q :: items' => exact absurd hbody (ne_head_items (hitems' q (List.mem_cons_self ..)) _)
    | p :: items, [] => exact absurd hbody.symm (ne_head_items (hitems p (List.mem_cons_self ..)) _)
    | p :: items, q :: items' =>
      obtain ⟨heq, hxy⟩ := intercalate_injective (List.cons_ne_nil _ _) (List.cons_ne_nil _ _)
        (fun p hp q hq x y hx hy heq => h p hp q x y (hitems' q hq) hx hy heq)
        (fun z => endsOpen_of_head (by decide)) (endsOpen_of_head (by decide))
        (endsOpen_of_head (by decide)) (by simp) (by simp) hbody
      exact ⟨congrArg tuple heq, (List.cons.inj hxy).2⟩

theorem readable_record {fields : List Phrase} (h : ∀ p ∈ fields, Readable .field p) :
    Readable .closed (record fields) := by
  refine readable_of_suffixes rfl fun q x y hq hzero hx hy heq => ?_
  obtain ⟨cs, hcs⟩ := exists_chars_record fields
  cases hq with
  | @word t ht =>
    obtain ⟨c, ds, hc, hne⟩ := exists_chars_word ht
    exact absurd heq.symm (ne_of_head hc hcs (hne _ (by decide)))
  | array _ => cases hzero
  | group _ _ => exact absurd heq (ne_of_head hcs (chars_group ..) (by decide))
  | tuple _ => exact absurd heq (ne_of_head hcs (chars_tuple ..) (by decide))
  | @record fields' hfields' =>
    have hempty : ∀ {p : Phrase} {ps : List Phrase} {z w : List Char},
        (record []).chars ++ z ≠ (record (p :: ps)).chars ++ w := by
      intro p ps z w heq
      rw [chars_record_nil, chars_record, List.append_assoc] at heq
      exact absurd (List.cons.inj (List.cons.inj heq).2).1 (by decide)
    match fields, fields' with
    | [], [] => exact ⟨rfl, List.append_cancel_left heq⟩
    | [], q :: fields' => exact absurd heq hempty
    | p :: fields, [] => exact absurd heq.symm hempty
    | p :: fields, q :: fields' =>
      rw [chars_record, chars_record, List.append_assoc, List.append_assoc, List.append_assoc,
        List.append_assoc] at heq
      obtain ⟨heq, hxy⟩ := intercalate_injective (List.cons_ne_nil _ _) (List.cons_ne_nil _ _)
        (fun p hp q hq x y hx hy heq => h p hp q x y (hfields' q hq) hx hy heq)
        (fun z => endsOpen_of_head (by decide)) (endsOpen_brace x) (endsOpen_brace y)
        (by simp) (by simp) (List.append_cancel_left heq)
      exact ⟨congrArg record heq, (List.cons.inj (List.cons.inj hxy).2).2⟩

theorem keyText_injective {k l : String} (h : Identifier.keyText k = Identifier.keyText l) :
    k = l := by
  have hmixed : ∀ {k l : String}, Identifier.isIdentifier k = true → k ≠ Json.quote l := by
    intro k l hk heq
    obtain ⟨c, cs, hc, hword, -⟩ := (isPlain_of_isIdentifier hk).exists_cons
    rw [heq, Json.quote, String.toList_ofList] at hc
    rw [← (List.cons.inj hc).1] at hword
    exact absurd hword (by decide)
  unfold Identifier.keyText at h
  split at h <;> split at h
  · exact h
  · next hk _ => exact absurd h (hmixed hk)
  · next _ hl => exact absurd h.symm (hmixed hl)
  · exact (Json.quote_injective (x := []) (y := []) (by rw [h])).1

/-- A key with its mark is told from the colon behind it. -/
theorem fieldText_injective {f f' : Field} {x y : List Char}
    (h : f.text.toList ++ ([':', ' '] ++ x) = f'.text.toList ++ ([':', ' '] ++ y)) :
    f = f' ∧ x = y := by
  have hmark : ∀ {b b' : Bool} {z w : List Char},
      (if b then "?" else "").toList ++ ([':', ' '] ++ z) =
        (if b' then "?" else "").toList ++ ([':', ' '] ++ w) → b = b' ∧ z = w := by
    intro b b' z w heq
    cases b <;> cases b'
    · exact ⟨rfl, List.append_cancel_left heq⟩
    · exact absurd (List.cons.inj heq).1 (by decide)
    · exact absurd (List.cons.inj heq).1 (by decide)
    · exact ⟨rfl, List.append_cancel_left (List.cons.inj heq).2⟩
  have hstops : ∀ {b : Bool} {z : List Char},
      Stops ((if b then "?" else "").toList ++ ([':', ' '] ++ z)) := by
    intro b z c hc
    cases b <;> cases hc <;> decide
  have hbracket : ∀ {key : String} {z w : List Char},
      (Identifier.keyText key).toList ++ z ≠ Identifier.indexSignature.toList ++ w := by
    intro key z w heq
    obtain ⟨c, cs, hc, hne⟩ := exists_chars_word (isWord_keyText key)
    rw [chars, text] at hc
    rw [hc] at heq
    exact hne '[' (by decide) (List.cons.inj heq).1
  obtain ⟨key, optional⟩ := f
  obtain ⟨key', optional'⟩ := f'
  rw [Field.text, Field.text, String.toList_append, String.toList_append, List.append_assoc,
    List.append_assoc] at h
  cases key with
  | some k =>
    cases key' with
    | some l =>
      obtain ⟨hkey, hrest⟩ :=
        word_injective (isWord_keyText k) (isWord_keyText l) hstops hstops h
      obtain ⟨rfl, hxy⟩ := hmark hrest
      exact ⟨by rw [keyText_injective hkey], hxy⟩
    | none => exact absurd h hbracket
  | none =>
    cases key' with
    | some l => exact absurd h.symm hbracket
    | none =>
      obtain ⟨rfl, hxy⟩ := hmark (List.append_cancel_left h)
      exact ⟨rfl, hxy⟩

theorem readable_item {p : Phrase} (hp : Proper .open p) (h : Readable .open p) :
    Readable .item p := by
  intro q x y hq hx hy heq
  cases hq with
  | item hq => exact h q x y hq hx hy heq
  | @spread q hq =>
    -- only a spread begins with a dot
    obtain ⟨c, cs, hc, hlead⟩ := hp.exists_head (by decide)
    refine absurd heq (ne_of_head hc (chars_spread q) ?_)
    rintro rfl
    rcases hlead with hlead | ⟨-, r, rfl⟩
    · exact absurd hlead (by decide)
    · rcases hp.cases_open with hp | ⟨ps, heq, -⟩
      · cases hp
      · cases heq

theorem readable_spread {p : Phrase} (h : Readable .closed p) : Readable .item (spread p) := by
  intro q x y hq hx hy heq
  cases hq with
  | item hq =>
    obtain ⟨c, cs, hc, hlead⟩ := hq.exists_head (by decide)
    refine absurd heq.symm (ne_of_head hc (chars_spread p) ?_)
    rintro rfl
    rcases hlead with hlead | ⟨-, r, rfl⟩
    · exact absurd hlead (by decide)
    · rcases hq.cases_open with hq | ⟨ps, heq, -⟩
      · cases hq
      · cases heq
  | @spread q hq =>
    rw [chars_spread, chars_spread, List.append_assoc, List.append_assoc] at heq
    obtain ⟨heq, hxy⟩ := (readable_array h).closed_eq hq.array hx.ends hy.ends
      (List.append_cancel_left heq)
    cases heq
    exact ⟨rfl, hxy⟩

theorem readable_field {f : Field} {p : Phrase} (h : Readable .open p) :
    Readable .field (field f p) := by
  intro q x y hq hx hy heq
  cases hq with
  | @field f' q hq =>
    rw [chars_field, chars_field, List.append_assoc, List.append_assoc, List.append_assoc,
      List.append_assoc] at heq
    obtain ⟨rfl, hrest⟩ := fieldText_injective heq
    obtain ⟨rfl, hxy⟩ := h q x y hq hx hy hrest
    exact ⟨rfl, hxy⟩

/-- What stands by itself is read as its alternatives. -/
theorem readable_open {p : Phrase} (hp : Proper .open p)
    (h : ∀ q ∈ p.alternatives, Readable .closed q) : Readable .open p := by
  intro q x y hq hx hy heq
  have hbar : ∀ {z : List Char}, EndsOpen z → ¬ [' ', '|', ' '] <+: z :=
    fun hz hbar => hz.noBar ((List.prefix_append [' ', '|'] [' ']).trans hbar)
  rw [chars_open p, chars_open q] at heq
  obtain ⟨halternatives, hxy⟩ := intercalate_injective hp.alternatives_ne_nil
    hq.alternatives_ne_nil
    (fun r hr s hs x y hx hy heq => (h r hr).closed_eq (hq.of_mem_alternatives hs) hx hy heq)
    (fun z => ends_of_head (by decide)) hx.ends hy.ends (hbar hx) (hbar hy) heq
  refine ⟨?_, hxy⟩
  have hclosed : ∀ {r s : Phrase}, Proper .closed r → ∀ {ps : List Phrase}, s = .either ps →
      2 ≤ ps.length → r.alternatives ≠ s.alternatives := by
    rintro r s hr ps rfl hlen heq
    rw [alternatives_of_closed hr] at heq
    change [r] = ps at heq
    rw [← heq] at hlen
    exact absurd hlen (by simp)
  rcases hp.cases_open with hp | ⟨ps, rfl, hps, -⟩ <;>
    rcases hq.cases_open with hq | ⟨qs, rfl, hqs, -⟩
  · rw [alternatives_of_closed hp, alternatives_of_closed hq] at halternatives
    exact (List.cons.inj halternatives).1
  · exact absurd halternatives (hclosed hp rfl hqs)
  · exact absurd halternatives.symm (hclosed hq rfl hps)
  · exact congrArg either halternatives

/-- **Every proper phrase can be read back.** -/
theorem Proper.readable {grade : Grade} {p : Phrase} (h : Proper grade p) : Readable grade p := by
  induction h with
  | word h => exact readable_word h
  | array _ ih => exact readable_array ih
  | group hlen _ ih => exact readable_group hlen ih
  | tuple h ih => exact readable_tuple h ih
  | record _ ih => exact readable_record ih
  | @tight p h ih =>
    refine readable_open (.tight h) fun q hq => ?_
    rw [alternatives_of_closed h, List.mem_singleton] at hq
    exact hq ▸ ih
  | either hlen h ih => exact readable_open (.either hlen h) ih
  | item h ih => exact readable_item h ih
  | spread _ ih => exact readable_spread ih
  | field _ ih => exact readable_field ih

/-- **No two type expressions are written alike.** -/
theorem eq_of_text_eq {p q : Phrase} (hp : Proper .open p) (hq : Proper .open q)
    (h : p.text = q.text) : p = q := by
  have hnil : EndsOpen [] := ⟨by rintro c ⟨⟩, by simp⟩
  refine (hp.readable q [] [] hq hnil hnil ?_).1
  rw [chars, chars, h]

end Phrase
end SchemaTypings
