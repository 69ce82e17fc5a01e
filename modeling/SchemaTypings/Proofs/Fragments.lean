import SchemaTypings.Proofs.Stateful
import SchemaTypings.Uri.Reader

/-! # Reading a URI with a fragment

A fragment begins at the first `#` of a URI.  Everything before it is read as it is without the
fragment, and the text behind it is percent encoded.  A text that names its scheme is read alike
against every base, unless its scheme is one of the web's own and less than two slashes follow.
-/
namespace SchemaTypings
namespace Uri

/-! ### Percent encoding -/

namespace Percent

theorem inFragment_hexDigit {n : Nat} (h : n < 16) : inFragment (hexDigit n) = false := by
  have hall : ∀ n < 16, inFragment (hexDigit n) = false := by decide
  exact hall n h

/-- What escapes are written with is not escaped. -/
theorem inFragment_of_mem_escapeChar {c d : Char} (h : d ∈ escapeChar c) :
    inFragment d = false := by
  obtain ⟨b, -, hd⟩ := List.mem_flatMap.1 h
  have hb : b.toNat < 256 := b.toNat_lt
  simp only [escapeByte, List.mem_cons, List.not_mem_nil, or_false] at hd
  rcases hd with rfl | rfl | rfl
  · decide
  · exact inFragment_hexDigit (by omega)
  · exact inFragment_hexDigit (by omega)

/-- **No character of an encoded fragment is escaped again.** -/
theorem inFragment_of_mem_encode {cs : List Char} {d : Char} (h : d ∈ encode inFragment cs) :
    inFragment d = false := by
  obtain ⟨c, -, hd⟩ := List.mem_flatMap.1 h
  split at hd
  · exact inFragment_of_mem_escapeChar hd
  · next hc =>
    rw [List.mem_singleton.1 hd]
    exact Bool.eq_false_iff.2 hc

/-- A text without characters of the set is left alone. -/
theorem encode_eq_self {set : Char → Bool} {cs : List Char} (h : ∀ c ∈ cs, set c = false) :
    encode set cs = cs := by
  induction cs with
  | nil => rfl
  | cons c cs ih =>
    rw [encode, List.flatMap_cons, h c List.mem_cons_self]
    exact congrArg (c :: ·) (ih fun d hd => h d (List.mem_cons_of_mem c hd))

end Percent

/-- A URI with the fragment that a text stands for. -/
def withFragment (u : Uri) (f : List Char) : Uri :=
  { u with fragment := some (String.ofList (Percent.encode Percent.inFragment f)) }

namespace Reader

/-! ### What stands before the mark -/

section Mark

variable {cs : List Char} (f : List Char)

theorem takeWhile_mark {p : Char → Bool} {mark : Char} (hp : p mark = false) :
    (cs ++ mark :: f).takeWhile p = cs.takeWhile p := by
  induction cs with
  | nil => rw [List.nil_append, List.takeWhile_cons_of_neg (by simp [hp]), List.takeWhile_nil]
  | cons c cs ih =>
    rw [List.cons_append, List.takeWhile_cons, List.takeWhile_cons, ih]

theorem dropWhile_mark {p : Char → Bool} {mark : Char} (hp : p mark = false) :
    (cs ++ mark :: f).dropWhile p = cs.dropWhile p ++ mark :: f := by
  induction cs with
  | nil => rw [List.nil_append, List.dropWhile_cons_of_neg (by simp [hp])]; rfl
  | cons c cs ih =>
    rw [List.cons_append, List.dropWhile_cons, List.dropWhile_cons, ih]
    split <;> rfl

/-- The mark is not taken for a colon, a slash or another character that is looked for. -/
theorem head?_mark_any {p : Char → Bool} (hp : p '#' = false) :
    (cs ++ '#' :: f).head?.any p = cs.head?.any p := by
  cases cs with
  | nil => exact hp
  | cons c cs => rfl

theorem scheme?_mark {scheme : String} {rest : List Char} (h : scheme? cs = some (scheme, rest)) :
    scheme? (cs ++ '#' :: f) = some (scheme, rest ++ '#' :: f) := by
  cases cs with
  | nil => cases h
  | cons c cs =>
    unfold scheme? at h ⊢
    dsimp only [List.cons_append] at h ⊢
    split at h
    · cases h
    · next hc =>
      rw [if_neg hc, ← List.cons_append, dropWhile_mark f (by decide), takeWhile_mark f (by decide)]
      split at h
      · next heq =>
        rw [heq]
        cases h
        rfl
      · cases h

section Pieces

variable (h : '#' ∉ cs)

include h

theorem ne_mark : ∀ c ∈ cs, (!decide (c = '#')) = true := by
  intro c hc
  rw [Bool.not_eq_true', decide_eq_false_iff_not]
  exact fun heq => h (heq ▸ hc)

/-- Without a mark there is no fragment. -/
theorem splitOnce_of_not_mem : Text.splitOnce (· = '#') cs = (cs, none) := by
  have hnil : cs.dropWhile (fun c => !decide (c = '#')) = [] := by
    rw [← List.append_nil cs, List.dropWhile_append_of_pos (ne_mark h), List.dropWhile_nil]
  rw [Text.splitOnce, hnil]

/-- The fragment begins at the mark. -/
theorem splitOnce_mark : Text.splitOnce (· = '#') (cs ++ '#' :: f) = (cs, some f) := by
  rw [Text.splitOnce, List.dropWhile_append_of_pos (ne_mark h),
    List.takeWhile_append_of_pos (ne_mark h), List.dropWhile_cons_of_neg (by decide),
    List.takeWhile_cons_of_neg (by decide), List.append_nil]

/-- **The query ends at the mark**, and the fragment begins there. -/
theorem queryAndFragment_mark (special : Bool) :
    queryAndFragment special ((cs ++ '#' :: f).dropWhile fun c => !endsPath c) =
      ((queryAndFragment special (cs.dropWhile fun c => !endsPath c)).1,
        some (String.ofList (Percent.encode Percent.inFragment f))) := by
  rw [dropWhile_mark f (by decide)]
  have hsub : ∀ c ∈ cs.dropWhile fun c => !endsPath c, c ∈ cs :=
    (List.dropWhile_suffix _).subset
  have hhead := List.head?_dropWhile_not (fun c => !endsPath c) cs
  cases htail : cs.dropWhile fun c => !endsPath c with
  | nil => rfl
  | cons c rest =>
    rw [htail] at hsub hhead
    have hrest : '#' ∉ rest := fun hmem => h (hsub _ (List.mem_cons_of_mem c hmem))
    obtain rfl : c = '?' := by
      have hc : c ≠ '#' := fun heq => h (heq ▸ hsub c List.mem_cons_self)
      simpa [endsPath, hc] using hhead
    simp only [queryAndFragment, List.cons_append, splitOnce_mark f hrest,
      splitOnce_of_not_mem hrest, Option.map_some]

omit h in
theorem trail_mark (scheme : String) (start : List Char) :
    trail scheme start (cs ++ '#' :: f) = trail scheme start cs := by
  have hends : (!endsPath '#') = false := rfl
  simp only [trail, takeWhile_mark f (p := fun c => !endsPath c) hends]

/-- **A path ends at the mark.** -/
theorem withPath_mark (u : Uri) (start : List Char) :
    withPath u start (cs ++ '#' :: f) = (withPath u start cs).withFragment f := by
  simp only [withPath, queryAndFragment_mark f h, trail_mark f]
  rfl

theorem withRootedPath_mark (u : Uri) :
    withRootedPath u (cs ++ '#' :: f) = (withRootedPath u cs).withFragment f := by
  cases cs with
  | nil =>
    have hnil : ∀ start, withPath u start ('#' :: f) = (withPath u start []).withFragment f :=
      withPath_mark f List.not_mem_nil u
    simp only [withRootedPath, List.nil_append]
    split
    · exact hnil ['/']
    · exact hnil []
  | cons c rest =>
    have hrest : '#' ∉ rest := fun hmem => h (List.mem_cons_of_mem c hmem)
    have hall := withPath_mark f h u
    simp only [List.cons_append] at hall
    simp only [withRootedPath, List.cons_append]
    split
    · split
      · exact withPath_mark f hrest u _
      · exact hall _
    · split
      · exact hall _
      · exact hall _

end Pieces

/-! ### Hosts before the mark -/

theorem isSlash_mark (special : Bool) : isSlash special '#' = false := by
  cases special <;> rfl

/-- A host ends at the mark. -/
theorem hostSpan_mark (special inside : Bool) :
    hostSpan special inside (cs ++ '#' :: f) =
      ((hostSpan special inside cs).1, (hostSpan special inside cs).2 ++ '#' :: f) := by
  induction cs generalizing inside with
  | nil =>
    have hends : endsPath '#' = true := rfl
    simp only [List.nil_append, hostSpan, hends, Bool.or_true, if_true]
  | cons c cs ih =>
    simp only [List.cons_append, hostSpan]
    split
    · rfl
    · simp only [ih]

theorem hostSpan_suffix (special inside : Bool) (cs : List Char) :
    (hostSpan special inside cs).2 <:+ cs := by
  induction cs generalizing inside with
  | nil => exact List.suffix_rfl
  | cons c cs ih =>
    rw [hostSpan]
    split
    · exact List.suffix_rfl
    · exact (ih _).trans (List.suffix_cons c cs)

/-- A text in which nothing follows empty credentials is their mark alone. -/
theorem eq_at_of_drop_eq_nil {span : List Char} {n : Nat} (hspan : span <+: cs)
    (hmem : '@' ∈ span) (hinfo : span.take (n - 1) = []) (hrest : cs.drop n = []) :
    cs = ['@'] := by
  have hle : n ≤ 1 := by
    rcases List.take_eq_nil_iff.1 hinfo with hn | hnil
    · omega
    · rw [hnil] at hmem
      cases hmem
  have hlength : cs.length ≤ 1 := Nat.le_trans (List.drop_eq_nil_iff.1 hrest) hle
  match cs, hspan.subset hmem, hlength with
  | [c], h, _ => rw [List.mem_singleton.1 h]

/-- **Credentials end before the mark.**  Empty credentials alone are the exception: a host must
follow them in a text that goes on. -/
theorem userInfo_mark (special : Bool) (hcs : cs ≠ ['@']) :
    userInfo special (cs ++ '#' :: f) =
      (userInfo special cs).map fun info => (info.1, info.2.1, info.2.2 ++ '#' :: f) := by
  have hends : (!(isSlash special '#' || endsPath '#')) = false := by
    rw [show endsPath '#' = true from rfl, Bool.or_true, Bool.not_true]
  simp only [userInfo, takeWhile_mark f (p := fun c => !(isSlash special c || endsPath c)) hends]
  have hspan := List.takeWhile_prefix (l := cs) fun c => !(isSlash special c || endsPath c)
  generalize cs.takeWhile (fun c => !(isSlash special c || endsPath c)) = span at hspan ⊢
  generalize hn : span.length - (span.reverse.takeWhile (· ≠ '@')).length = n
  have hle : n ≤ cs.length := Nat.le_trans (hn ▸ Nat.sub_le ..) hspan.length_le
  rw [List.drop_append_of_le_length hle]
  split
  · rfl
  · next hmem =>
    split
    · next hinfo =>
      cases hrest : cs.drop n with
      | nil =>
        exact absurd (eq_at_of_drop_eq_nil hspan (by simpa using hmem)
          (List.isEmpty_iff.1 hinfo) hrest) hcs
      | cons c more =>
        simp only [List.cons_append]
        split <;> rfl
    · rfl

theorem userInfo_suffix {special : Bool} {name : String} {password : Option String}
    {rest : List Char} (h : userInfo special cs = .ok (name, password, rest)) : rest <:+ cs := by
  have hdrop : ∀ n, cs.drop n <:+ cs := fun n => List.drop_suffix n cs
  simp only [userInfo] at h
  split at h
  · cases h
    exact List.suffix_rfl
  · split at h
    · split at h
      · split at h
        · cases h
        · cases h
          exact hdrop _
      · cases h
        exact hdrop _
    · cases h
      exact hdrop _

/-- **A port ends at the mark.** -/
theorem port?_mark (scheme : String) : port? scheme (cs ++ '#' :: f) =
    (port? scheme cs).map fun port => (port.1, port.2 ++ '#' :: f) := by
  have hdigit : Char.isDigit '#' = false := rfl
  simp only [port?, takeWhile_mark f hdigit, dropWhile_mark f hdigit]
  rw [head?_mark_any f (p := fun c => decide (c ∉ ['/', '\\', '?', '#'])) rfl]
  repeat' split
  all_goals rfl

theorem port?_suffix {scheme : String} {port : Option Nat} {rest : List Char}
    (h : port? scheme cs = .ok (port, rest)) : rest <:+ cs := by
  simp only [port?] at h
  repeat' split at h
  all_goals
    cases h
  all_goals exact List.dropWhile_suffix _

end Mark

/-! ### Authorities -/

/-- A URI from the end of its host on. -/
def fromHost (scheme username : String) (password : Option String) (host : Host)
    (rest : List Char) : Except Fault Uri :=
  if host = .name "" ∧ rest.head? = some ':' then .error .emptyHost else
  (if rest.head? = some ':' then port? scheme (rest.drop 1) else .ok (none, rest)).bind fun port =>
    if host = .name "" ∧ (username ≠ "" ∨ password.isSome) then .error .emptyHost
    else .ok (withRootedPath
      { scheme, username, password, host := some host, port := port.1
        path := .rooted "", query := none, fragment := none } port.2)

/-- **An authority in its stages**: credentials, the host, and what follows the host. -/
theorem fromAuthority_eq (scheme : String) (cs : List Char) : fromAuthority scheme cs =
    (userInfo (isSpecialScheme scheme) cs).bind fun info =>
      if isSpecialScheme scheme ∧ (hostSpan (isSpecialScheme scheme) false info.2.2).1.isEmpty then
        .error .emptyHost
      else
        (if isSpecialScheme scheme then
            specialHost? (hostSpan (isSpecialScheme scheme) false info.2.2).1
          else opaqueHost? (hostSpan (isSpecialScheme scheme) false info.2.2).1).bind fun host =>
            fromHost scheme info.1 info.2.1 host
              (hostSpan (isSpecialScheme scheme) false info.2.2).2 := by
  have hthrow : ∀ {α : Type} (e : Fault), (throw e : Except Fault α) = .error e := fun _ => rfl
  simp only [fromAuthority, fromHost, bind, pure, Except.pure, hthrow]
  cases userInfo (isSpecialScheme scheme) cs with
  | error e => rfl
  | ok info =>
    obtain ⟨username, password, after⟩ := info
    simp only [Except.bind]
    generalize hostSpan (isSpecialScheme scheme) false after = span
    obtain ⟨host, rest⟩ := span
    by_cases hempty : isSpecialScheme scheme = true ∧ host.isEmpty = true
    · simp only [if_pos hempty]
    · simp only [if_neg hempty]
      by_cases hcolon : rest.head? = some ':' <;>
        simp only [hcolon, if_true, if_false, and_true, and_false] <;> split
      · cases specialHost? host <;> rfl
      · cases opaqueHost? host <;> rfl
      · cases specialHost? host <;> rfl
      · cases opaqueHost? host <;> rfl

/-- Stages that go on alike. -/
theorem bind_map {α α' : Type} {x : Except Fault α} {φ : α → α'} {k : α → Except Fault Uri}
    {k' : α' → Except Fault Uri} {g : Uri → Uri} (h : ∀ a, x = .ok a → k' (φ a) = (k a).map g) :
    (x.map φ).bind k' = (x.bind k).map g := by
  cases x with
  | error e => rfl
  | ok a => exact h a rfl

section Mark

variable {cs : List Char} (f : List Char) (h : '#' ∉ cs)

include h

/-- What follows a host is read alike before the mark. -/
theorem fromHost_mark (scheme username : String) (password : Option String) (host : Host) :
    fromHost scheme username password host (cs ++ '#' :: f) =
      (fromHost scheme username password host cs).map (withFragment · f) := by
  have hport : (if (cs ++ '#' :: f).head? = some ':' then port? scheme ((cs ++ '#' :: f).drop 1)
      else .ok (none, cs ++ '#' :: f)) =
        (if cs.head? = some ':' then port? scheme (cs.drop 1) else .ok (none, cs)).map
          fun port => (port.1, port.2 ++ '#' :: f) := by
    cases cs with
    | nil => rfl
    | cons c rest =>
      simp only [List.cons_append, List.head?_cons, List.drop_succ_cons, List.drop_zero,
        port?_mark]
      split <;> rfl
  have hhead : (cs ++ '#' :: f).head? = some ':' ↔ cs.head? = some ':' := by
    cases cs with
    | nil => exact ⟨nofun, nofun⟩
    | cons c rest => rfl
  unfold fromHost
  rw [hport]
  simp only [hhead]
  split
  · rfl
  · refine bind_map fun port hok => ?_
    have hrest : '#' ∉ port.2 := by
      refine fun hmem => h (List.IsSuffix.subset ?_ hmem)
      split at hok
      · exact (port?_suffix hok).trans (List.drop_suffix 1 cs)
      · cases hok
        exact List.suffix_rfl
    split
    · rfl
    · exact congrArg Except.ok (withRootedPath_mark f hrest _)

/-- **A URI from its host on is read alike before the mark.** -/
theorem fromAuthority_mark (scheme : String) (hcs : cs ≠ ['@']) :
    fromAuthority scheme (cs ++ '#' :: f) = (fromAuthority scheme cs).map (withFragment · f) := by
  rw [fromAuthority_eq, fromAuthority_eq, userInfo_mark f _ hcs]
  refine bind_map fun info hinfo => ?_
  have hafter : '#' ∉ (hostSpan (isSpecialScheme scheme) false info.2.2).2 := fun hmem =>
    h ((userInfo_suffix hinfo).subset ((hostSpan_suffix ..).subset hmem))
  simp only [hostSpan_mark f]
  split
  · rfl
  · generalize (if isSpecialScheme scheme then _ else _ : Except Fault Host) = host
    cases host with
    | error e => rfl
    | ok host => exact fromHost_mark f hafter scheme info.1 info.2.1 host

/-- **A file URI is read alike before the mark.** -/
theorem fileAuthority_mark :
    fileAuthority (cs ++ '#' :: f) = (fileAuthority cs).map (withFragment · f) := by
  have hends : (!(isSlash true '#' || endsPath '#')) = false := rfl
  have hrest : '#' ∉ cs.dropWhile fun c => !(isSlash true c || endsPath c) := fun hmem =>
    h ((List.dropWhile_suffix _).subset hmem)
  simp only [fileAuthority, takeWhile_mark f (p := fun c => !(isSlash true c || endsPath c)) hends,
    dropWhile_mark f (p := fun c => !(isSlash true c || endsPath c)) hends]
  generalize cs.takeWhile (fun c => !(isSlash true c || endsPath c)) = span
  generalize cs.dropWhile (fun c => !(isSlash true c || endsPath c)) = rest at hrest ⊢
  split
  · exact congrArg Except.ok (withPath_mark f h _ _)
  split
  · exact congrArg Except.ok (withPath_mark f hrest _ _)
  cases specialHost? span with
  | error e => rfl
  | ok host =>
    dsimp only
    split
    · exact congrArg Except.ok (withPath_mark f hrest _ _)
    · have hdrop : (if (rest ++ '#' :: f).head?.any (isSlash true) then (rest ++ '#' :: f).drop 1
          else rest ++ '#' :: f) =
            (if rest.head?.any (isSlash true) then rest.drop 1 else rest) ++ '#' :: f := by
        cases rest with
        | nil => rfl
        | cons c more =>
          simp only [List.cons_append, List.head?_cons, List.drop_succ_cons, List.drop_zero]
          split <;> rfl
      have hpath : '#' ∉ if rest.head?.any (isSlash true) then rest.drop 1 else rest := by
        split
        · exact fun hmem => hrest (List.mem_of_mem_drop hmem)
        · exact hrest
      rw [hdrop, trail_mark]
      exact congrArg Except.ok (withPath_mark f hpath _ _)

omit h in
/-- Without a slash behind its scheme, a URI of another scheme has an opaque path. -/
theorem general_of_head (scheme : String) (hcs : cs.head? ≠ some '/') : general scheme cs =
    .ok { scheme, username := "", password := none, host := none, port := none
          path := .opaqueText (String.ofList (Percent.encode Percent.isControl
            (cs.takeWhile fun c => !endsPath c)))
          query := (queryAndFragment false (cs.dropWhile fun c => !endsPath c)).1
          fragment := (queryAndFragment false (cs.dropWhile fun c => !endsPath c)).2 } := by
  unfold general
  split
  · exact absurd rfl hcs
  · exact absurd rfl hcs
  · rfl

/-- **A URI of another scheme is read alike before the mark.** -/
theorem general_mark (scheme : String) (hcs : cs ≠ ['/', '/', '@']) :
    general scheme (cs ++ '#' :: f) = (general scheme cs).map (withFragment · f) := by
  by_cases hslash : cs.head? = some '/'
  · obtain ⟨rest, rfl⟩ := List.head?_eq_some_iff.1 hslash
    by_cases hsecond : rest.head? = some '/'
    · obtain ⟨more, rfl⟩ := List.head?_eq_some_iff.1 hsecond
      have hmore : '#' ∉ more := fun hmem =>
        h (List.mem_cons_of_mem _ (List.mem_cons_of_mem _ hmem))
      exact fromAuthority_mark f hmore scheme fun heq => hcs (heq ▸ rfl)
    · have hrest : '#' ∉ rest := fun hmem => h (List.mem_cons_of_mem _ hmem)
      have hrooted : ∀ cs : List Char, cs.head? ≠ some '/' → general scheme ('/' :: cs) =
          .ok (withPath { scheme, username := "", password := none, host := none, port := none
                          path := .rooted "", query := none, fragment := none } ['/'] cs) := by
        intro cs hcs
        unfold general
        split
        · next heq =>
          cases heq
          exact absurd rfl hcs
        · next heq =>
          cases heq
          rfl
        · next _ hno => exact absurd rfl (hno cs)
      have hmark : (rest ++ '#' :: f).head? ≠ some '/' := by
        cases rest with
        | nil => simp
        | cons c more => exact hsecond
      rw [List.cons_append, hrooted _ hmark, hrooted _ hsecond]
      exact congrArg Except.ok (withPath_mark f hrest _ ['/'])
  · have hmark : (cs ++ '#' :: f).head? ≠ some '/' := by
      cases cs with
      | nil => simp
      | cons c rest => exact hslash
    rw [general_of_head _ hslash, general_of_head _ hmark, queryAndFragment_mark f h,
      takeWhile_mark f (p := fun c => !endsPath c) rfl]
    rfl

end Mark

/-! ### Absolute texts -/

/-- **The text of an absolute URI without a fragment.**  It has no blanks at its ends and no line
breaks, and names its scheme.  Two slashes follow a scheme of the web's own, and credentials are not
all that follows two slashes. -/
structure IsAbsolute (cs : List Char) : Prop where
  clean : clean cs = cs
  bare : '#' ∉ cs
  named : ∃ scheme rest, scheme? cs = some (scheme, rest) ∧ rest ≠ ['/', '/', '@'] ∧
    (isSpecialScheme scheme = true →
      ∃ a b more, rest = a :: b :: more ∧ isSlash true a = true ∧ isSlash true b = true)

/-- What follows the scheme is the end of the text. -/
theorem scheme?_suffix {cs rest : List Char} {scheme : String}
    (h : scheme? cs = some (scheme, rest)) : rest <:+ cs := by
  unfold scheme? at h
  split at h
  · cases h
  · split at h
    · cases h
    · split at h
      · next heq =>
        cases h
        exact (List.suffix_cons ':' rest).trans (heq ▸ List.dropWhile_suffix _)
      · cases h

/-- The text of a scheme starts with a letter. -/
theorem isAlpha_of_scheme? {cs rest : List Char} {scheme : String}
    (h : scheme? cs = some (scheme, rest)) : ∃ c more, cs = c :: more ∧ c.isAlpha = true := by
  unfold scheme? at h
  split at h
  · cases h
  · next c more =>
    split at h
    · cases h
    · next hc => exact ⟨c, more, rfl, Decidable.not_not.1 hc⟩

/-- Two slashes behind `file` start a host, whatever the base is. -/
theorem file_of_slashes (base : Option Uri) {a b : Char} (ha : isSlash true a = true)
    (hb : isSlash true b = true) (cs : List Char) :
    file base (a :: b :: cs) = fileAuthority cs := by
  simp [file, ha, hb]

/-- Two slashes behind another scheme of the web's own start a host, whatever the base is. -/
theorem withScheme_of_slashes (base : Option Uri) {scheme : String}
    (hfile : isFileScheme scheme = false) (hspecial : isSpecialScheme scheme = true) {a b : Char}
    (ha : isSlash true a = true) (hb : isSlash true b = true) (cs : List Char) :
    withScheme base scheme (a :: b :: cs) =
      fromAuthority scheme (cs.drop (cs.takeWhile (isSlash true)).length) := by
  have hslashes : ((a :: b :: cs).takeWhile (isSlash true)).length =
      (cs.takeWhile (isSlash true)).length + 2 := by
    rw [List.takeWhile_cons_of_pos ha, List.takeWhile_cons_of_pos hb]
    rfl
  simp only [withScheme, hfile, hspecial, Bool.false_eq_true, if_false, if_true, hslashes,
    List.drop_succ_cons]
  split
  · rw [if_neg (by omega)]
  · rfl

/-- A host must follow empty credentials in the schemes of the web's own. -/
theorem fromAuthority_at {scheme : String} (h : isSpecialScheme scheme = true) :
    fromAuthority scheme ['@'] = .error .emptyHost := by
  have hinfo : userInfo true ['@'] = .ok ("", none, []) := by rfl
  rw [fromAuthority_eq, h, hinfo]
  rfl

/-- **A text with a scheme is read alike before the mark**, against whatever base. -/
theorem withScheme_mark {base : Option Uri} {scheme : String} {cs : List Char} (f : List Char)
    (h : '#' ∉ cs) (hcs : cs ≠ ['/', '/', '@'])
    (hspecial : isSpecialScheme scheme = true →
      ∃ a b more, cs = a :: b :: more ∧ isSlash true a = true ∧ isSlash true b = true) {u : Uri}
    (hu : withScheme none scheme cs = .ok u) :
    withScheme base scheme (cs ++ '#' :: f) = .ok (u.withFragment f) := by
  cases hweb : isSpecialScheme scheme with
  | false =>
    have hfile : isFileScheme scheme = false := (Bool.or_eq_false_iff.1 hweb).1
    simp only [withScheme, hfile, hweb, Bool.false_eq_true, if_false] at hu ⊢
    rw [general_mark f h scheme hcs, hu]
    rfl
  | true =>
    obtain ⟨a, b, more, rfl, ha, hb⟩ := hspecial hweb
    have hmore : '#' ∉ more := fun hmem =>
      h (List.mem_cons_of_mem _ (List.mem_cons_of_mem _ hmem))
    cases hfile : isFileScheme scheme with
    | true =>
      simp only [withScheme, hfile, if_true, List.cons_append,
        file_of_slashes _ ha hb] at hu ⊢
      rw [fileAuthority_mark f hmore, hu]
      rfl
    | false =>
      rw [withScheme_of_slashes none hfile hweb ha hb] at hu
      rw [List.cons_append, List.cons_append, withScheme_of_slashes base hfile hweb ha hb,
        takeWhile_mark f (isSlash_mark true),
        List.drop_append_of_le_length (List.takeWhile_prefix _).length_le]
      have hhost : more.drop (more.takeWhile (isSlash true)).length ≠ ['@'] := by
        intro heq
        rw [heq, fromAuthority_at hweb] at hu
        cases hu
      rw [fromAuthority_mark f (fun hmem => hmore (List.mem_of_mem_drop hmem)) scheme hhost, hu]
      rfl

/-! ### Blanks -/

/-- Blanks and controls, which are dropped at the ends of a reference. -/
def isOuter (c : Char) : Bool := c.toNat ≤ 0x20

/-- All but tabs and line breaks, which are dropped anywhere. -/
def isInner (c : Char) : Bool := c ≠ '\t' && c ≠ '\n' && c ≠ '\r'

/-- The end of a reference without its blanks and line breaks. -/
def cleanEnd (f : List Char) : List Char :=
  (f.reverse.dropWhile isOuter).reverse.filter isInner

theorem clean_of_front {front : List Char} (hfront : front.dropWhile isOuter = front)
    (f : List Char) : clean (front ++ '#' :: f) = front.filter isInner ++ '#' :: cleanEnd f := by
  change ((((front ++ '#' :: f).dropWhile isOuter).reverse.dropWhile isOuter).reverse).filter
    isInner = _
  have hmark : isOuter '#' = false := by decide
  rw [dropWhile_mark f hmark, hfront, List.reverse_append, List.reverse_cons, List.append_assoc,
    List.singleton_append, dropWhile_mark _ hmark, List.reverse_append, List.reverse_cons,
    List.reverse_reverse, List.append_assoc, List.singleton_append, List.filter_append,
    List.filter_cons_of_pos (by decide), cleanEnd]

/-- Letters are no blanks. -/
theorem not_isOuter_of_isAlpha {c : Char} (hc : c.isAlpha = true) : isOuter c = false := by
  delta Char.isAlpha Char.isUpper Char.isLower at hc
  simp only [Bool.or_eq_true, Bool.and_eq_true, decide_eq_true_eq, UInt32.le_iff_toNat_le,
    ge_iff_le] at hc
  change (65 ≤ c.toNat ∧ c.toNat ≤ 90) ∨ 97 ≤ c.toNat ∧ c.toNat ≤ 122 at hc
  rw [isOuter, decide_eq_false_iff_not]
  omega

section Absolute

variable {cs : List Char} (hcs : IsAbsolute cs)

include hcs

/-- **What stands before the mark is left alone** when blanks and line breaks are dropped. -/
theorem clean_mark (f : List Char) : clean (cs ++ '#' :: f) = cs ++ '#' :: cleanEnd f := by
  obtain ⟨scheme, rest, hscheme, -⟩ := hcs.named
  obtain ⟨c, more, rfl, hc⟩ := isAlpha_of_scheme? hscheme
  have hkept : (c :: more).filter isInner = c :: more := by
    refine List.filter_eq_self.2 fun d hd => ?_
    rw [← hcs.clean] at hd
    exact (List.mem_filter.1 hd).2
  rw [clean_of_front (List.dropWhile_cons_of_neg (by simp [not_isOuter_of_isAlpha hc])), hkept]

/-- **An absolute text with a fragment** is read as the text, whatever the base is, and the fragment
is encoded. -/
theorem reference_mark (f : List Char) (base : Option Uri) {u : Uri}
    (hu : reference none cs = .ok u) : reference base (cs ++ '#' :: f) = .ok (u.withFragment f) := by
  obtain ⟨scheme, rest, hscheme, hrest, hspecial⟩ := hcs.named
  simp only [reference, hscheme] at hu
  simp only [reference, scheme?_mark f hscheme]
  exact withScheme_mark f (fun hmem => hcs.bare ((scheme?_suffix hscheme).subset hmem)) hrest
    hspecial hu

end Absolute

/-- A blank at an end and a line break are escaped in a fragment. -/
theorem inFragment_of_dropped {c : Char} (h : isOuter c = true ∨ isInner c = false) :
    Percent.inFragment c = true := by
  rcases h with h | h
  · have hle : c.toNat ≤ 0x20 := of_decide_eq_true h
    rcases Nat.lt_or_eq_of_le hle with hlt | heq
    · simp [Percent.inFragment, Percent.isControl, hlt]
    · obtain rfl : c = ' ' := Char.ext (UInt32.toNat_inj.1 heq)
      decide
  · simp only [isInner, Bool.and_eq_false_iff, decide_eq_false_iff_not, Decidable.not_not] at h
    rcases h with (rfl | rfl) | rfl <;> decide

/-- **A fragment is read as it is written exactly when nothing in it is escaped.** -/
theorem encode_cleanEnd_eq_iff {f : List Char} :
    Percent.encode Percent.inFragment (cleanEnd f) = f ↔
      ∀ c ∈ f, Percent.inFragment c = false := by
  constructor
  · intro h c hc
    rw [← h] at hc
    exact Percent.inFragment_of_mem_encode hc
  · intro h
    have hstays : ∀ c ∈ f, isOuter c = false ∧ isInner c = true := by
      intro c hc
      constructor
      · exact Bool.eq_false_iff.2 fun houter =>
          absurd (inFragment_of_dropped (Or.inl houter)) (by simp [h c hc])
      · exact Bool.of_not_eq_false fun hinner =>
          absurd (inFragment_of_dropped (Or.inr hinner)) (by simp [h c hc])
    have houter : f.reverse.dropWhile isOuter = f.reverse := by
      cases hrev : f.reverse with
      | nil => rfl
      | cons c more =>
        have hmem : c ∈ f := List.mem_reverse.1 (hrev ▸ List.mem_cons_self)
        exact List.dropWhile_cons_of_neg (by simp [(hstays c hmem).1])
    rw [cleanEnd, houter, List.reverse_reverse,
      List.filter_eq_self.2 fun c hc => (hstays c hc).2, Percent.encode_eq_self h]

/-- A fragment that begins with a slash still does when it is read. -/
theorem cleanEnd_cons_slash (f : List Char) : cleanEnd ('/' :: f) = '/' :: cleanEnd f := by
  rw [cleanEnd, List.reverse_cons, dropWhile_mark [] (by decide), List.reverse_append,
    List.reverse_singleton, List.singleton_append, List.filter_cons_of_pos (by decide), cleanEnd]

end Reader

/-- **An absolute reference is read alike in every scope**: what stands before its fragment names the
document, and the fragment is encoded. -/
theorem join?_fragment {text : String} (htext : Reader.IsAbsolute text.toList) {u : Uri}
    (hu : read? text = .ok u) (scope : Uri) (fragment : String) :
    scope.join? (text ++ "#" ++ fragment) =
      .ok (u.withFragment (Reader.cleanEnd fragment.toList)) := by
  rw [read?, htext.clean] at hu
  have hchars : (text ++ "#" ++ fragment).toList = text.toList ++ '#' :: fragment.toList := by
    simp
  rw [join?, hchars, Reader.clean_mark htext]
  exact Reader.reference_mark htext _ _ hu

end Uri
end SchemaTypings