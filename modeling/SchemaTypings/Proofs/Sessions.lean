import SchemaTypings.Proofs.ReferenceTargets

/-! # Sessions with a resolver

A session is a list of calls on one resolver, each answered in the state that the calls before it
have left.  A document is fetched by the first call whose reference names it, and by no other; what
the source serves then is queued, in that order, and handed out from the front.  A document that
the source refused stays asked for, too: the call that fetched it fails, and later calls are
answered as if it were there.
-/
namespace SchemaTypings
namespace Resolver

/-- What a resolver is called for. -/
inductive Call where
  /-- The place that a reference at `site` in the document `scope` leads to. -/
  | resolve (reference : String) (scope : Uri) (site : String)
  /-- The next document whose references have not been rewritten yet. -/
  | next

/-- The answer to a call. -/
inductive Answer where
  | pointer (text : String)
  | failure (cause : CompileError)
  | document (next : Option (Uri × Json))

/-- The document that an answer hands out. -/
def Answer.document? : Answer → Option (Uri × Json)
  | .document next => next
  | _ => none

/-- One call. -/
def step (r : Resolver) : Call → Answer × Resolver
  | .resolve reference scope site =>
    match r.resolve reference scope site with
    | (.ok pointer, s) => (.pointer pointer, s)
    | (.error cause, s) => (.failure cause, s)
  | .next => (.document r.next?.1, r.next?.2)

/-- The document that a call fetches: the one that its reference names, unless it is the root or
was asked for before. -/
def fetches? (r : Resolver) : Call → Option Uri
  | .resolve reference scope _ =>
    match target? scope reference with
    | some (document, fragment) =>
      if isPointer fragment ∧ ¬ (r.isRoot document || r.asked.contains document.text) then
        some document
      else none
    | none => none
  | .next => none

/-! ### One call -/

/-- **What a call can do**: its answer, the state behind it, and the document that it fetches. -/
inductive Outcome (r : Resolver) : Call → Answer → Resolver → Option Uri → Prop
  | unresolvable {reference site : String} {scope : Uri}
      (h : ∀ document fragment, target? scope reference = some (document, fragment) →
        isPointer fragment = false) :
      Outcome r (.resolve reference scope site) (.failure (.unresolvableRef site reference)) r none
  | known {reference site fragment : String} {scope document : Uri}
      (htarget : target? scope reference = some (document, fragment))
      (h : document.text = r.root.text ∨ document.text ∈ r.asked) :
      Outcome r (.resolve reference scope site) (.pointer (r.documentPointer document ++ fragment))
        r none
  | served {reference site fragment : String} {scope document : Uri} {value : Json}
      (htarget : target? scope reference = some (document, fragment))
      (hroot : document.text ≠ r.root.text) (hnew : document.text ∉ r.asked)
      (h : r.source.fetch document = .ok value) :
      Outcome r (.resolve reference scope site) (.pointer (r.documentPointer document ++ fragment))
        { r with asked := document.text :: r.asked, pending := r.pending ++ [(document, value)] }
        (some document)
  | refused {reference site fragment reason : String} {scope document : Uri}
      (htarget : target? scope reference = some (document, fragment))
      (hroot : document.text ≠ r.root.text) (hnew : document.text ∉ r.asked)
      (h : r.source.fetch document = .error reason) :
      Outcome r (.resolve reference scope site) (.failure (.fetchFailed document.text reason))
        { r with asked := document.text :: r.asked } (some document)
  | handed : Outcome r .next (.document r.pending.head?) { r with pending := r.pending.tail } none

theorem next?_eq (r : Resolver) :
    r.next? = (r.pending.head?, { r with pending := r.pending.tail }) := by
  obtain ⟨root, source, asked, pending⟩ := r
  cases pending <;> rfl

theorem outcome (r : Resolver) (call : Call) :
    Outcome r call (r.step call).1 (r.step call).2 (r.fetches? call) := by
  cases call with
  | next =>
    rw [step, next?_eq]
    exact .handed
  | resolve reference scope site =>
    rw [step, fetches?, resolve]
    cases htarget : target? scope reference with
    | none => exact .unresolvable fun _ _ h => nomatch htarget.symm.trans h
    | some target =>
      obtain ⟨document, fragment⟩ := target
      dsimp only
      by_cases hpointer : isPointer fragment = true
      · by_cases hknown : (r.isRoot document || r.asked.contains document.text) = true
        · rw [if_neg (not_not.2 hpointer), if_neg fun h => h.2 hknown, request, if_pos hknown]
          refine .known htarget ?_
          rcases Bool.or_eq_true_iff.1 hknown with hroot | hasked
          · exact Or.inl (of_decide_eq_true hroot)
          · exact Or.inr (List.contains_iff_mem.1 hasked)
        · rw [if_neg (not_not.2 hpointer), if_pos ⟨hpointer, hknown⟩, request, if_neg hknown]
          obtain ⟨hroot, hasked⟩ := not_or.1 (mt Bool.or_eq_true_iff.2 hknown)
          have hother : document.text ≠ r.root.text := fun heq => hroot (decide_eq_true heq)
          have hnew : document.text ∉ r.asked := fun hmem => hasked (List.contains_iff_mem.2 hmem)
          dsimp only
          cases hfetch : r.source.fetch document with
          | ok value => exact .served htarget hother hnew hfetch
          | error reason => exact .refused htarget hother hnew hfetch
      · rw [if_pos hpointer, if_neg fun h => hpointer h.1]
        refine .unresolvable fun document' fragment' h => ?_
        cases htarget.symm.trans h
        exact Bool.eq_false_iff.2 hpointer

/-- **What a session has come to.** -/
structure Session where
  resolver : Resolver
  /-- The answers so far, the first one first. -/
  answers : List Answer
  /-- The documents that the source was asked for, in order. -/
  fetched : List Uri

namespace Session

/-- The session with one more call. -/
def ask (s : Session) (call : Call) : Session where
  resolver := (s.resolver.step call).2
  answers := s.answers ++ [(s.resolver.step call).1]
  fetched := s.fetched ++ (s.resolver.fetches? call).toList

/-- The documents that were handed out, in order. -/
def handed (s : Session) : List (Uri × Json) := s.answers.filterMap Answer.document?

/-- The documents that were ever queued: those handed out, and then those that wait. -/
def queued (s : Session) : List (Uri × Json) := s.handed ++ s.resolver.pending

end Session

/-- **The session that some calls make** on a resolver. -/
def session (r : Resolver) (calls : List Call) : Session := calls.foldl Session.ask ⟨r, [], []⟩

@[simp] theorem session_nil (r : Resolver) : r.session [] = ⟨r, [], []⟩ := rfl

theorem session_concat (r : Resolver) (calls : List Call) (call : Call) :
    r.session (calls ++ [call]) = (r.session calls).ask call :=
  List.foldl_concat ..

end Resolver

/-- The document that a source serves under a URI. -/
def DocumentSource.serve? (source : DocumentSource) (uri : Uri) : Option (Uri × Json) :=
  (source.fetch uri).toOption.map fun value => (uri, value)

namespace DocumentSource

variable {source : DocumentSource} {uri other : Uri}

theorem serve?_of_ok {value : Json} (h : source.fetch uri = .ok value) :
    source.serve? uri = some (uri, value) := by
  rw [serve?, h]
  rfl

theorem serve?_of_error {reason : String} (h : source.fetch uri = .error reason) :
    source.serve? uri = Option.none := by
  rw [serve?, h]
  rfl

theorem serve?_eq_some {d : Uri × Json} :
    source.serve? uri = some d ↔ d.1 = uri ∧ source.fetch uri = .ok d.2 := by
  obtain ⟨key, value⟩ := d
  cases hfetch : source.fetch uri with
  | ok served =>
    rw [serve?_of_ok hfetch, Option.some.injEq, Prod.mk.injEq, Except.ok.injEq]
    exact and_congr_left fun _ => eq_comm
  | error reason =>
    rw [serve?_of_error hfetch]
    exact ⟨fun h => (nomatch h), fun h => nomatch h.2⟩

/-- Documents are served by the text of their URI. -/
theorem fetch_of_text_eq (h : uri.text = other.text) {value : Json}
    (hfetch : source.fetch uri = .ok value) : source.fetch other = .ok value := by
  rw [fetch, ← h]
  rw [fetch] at hfetch
  cases hanswer : source.answers.get? uri.text with
  | some answer => rwa [hanswer] at hfetch
  | none =>
    rw [hanswer] at hfetch
    cases hfetch

end DocumentSource

namespace Resolver

variable {root : Uri} {source : DocumentSource}

/-! ### Whole sessions -/

/-- **The order of a session**: no document is fetched twice, nor the root; what was served is
queued in the order of the fetches, and what was not has failed. -/
structure Session.Orderly (root : Uri) (source : DocumentSource) (s : Session) : Prop where
  sameRoot : s.resolver.root = root
  sameSource : s.resolver.source = source
  asked : s.resolver.asked = (s.fetched.map Uri.text).reverse
  once : (s.fetched.map Uri.text).Nodup
  noRoot : root.text ∉ s.fetched.map Uri.text
  queued : s.queued = s.fetched.filterMap source.serve?
  failed : ∀ text reason, .failure (.fetchFailed text reason) ∈ s.answers ↔
    ∃ uri ∈ s.fetched, uri.text = text ∧ source.fetch uri = .error reason

namespace Session.Orderly

variable {s : Session}

theorem mem_asked (h : s.Orderly root source) {text : String} :
    text ∈ s.resolver.asked ↔ text ∈ s.fetched.map Uri.text := by
  rw [h.asked, List.mem_reverse]

/-- A call that fetches at most what is new, queues what it is served, and fails with what it is
refused. -/
theorem extend (h : s.Orderly root source) {after : Resolver} {answer : Answer} {new : Option Uri}
    (hroot : after.root = root) (hsource : after.source = source)
    (hasked : after.asked = (new.map Uri.text).toList ++ s.resolver.asked)
    (hnew : ∀ uri ∈ new, uri.text ≠ root.text ∧ uri.text ∉ s.resolver.asked)
    (hqueue : answer.document?.toList ++ after.pending =
      s.resolver.pending ++ (new.bind source.serve?).toList)
    (hfailed : ∀ text reason, answer = .failure (.fetchFailed text reason) ↔
      ∃ uri ∈ new, uri.text = text ∧ source.fetch uri = .error reason) :
    Session.Orderly root source ⟨after, s.answers ++ [answer], s.fetched ++ new.toList⟩ where
  sameRoot := hroot
  sameSource := hsource
  asked := by
    rw [hasked, h.asked, List.map_append, List.reverse_append]
    cases new <;> rfl
  once := by
    cases new with
    | none => simpa using h.once
    | some uri =>
      rw [Option.toList_some, List.map_append, List.map_singleton, List.nodup_append]
      refine ⟨h.once, List.nodup_singleton _, ?_⟩
      rintro text htext other hother rfl
      rw [List.mem_singleton.1 hother] at htext
      exact (hnew uri rfl).2 (h.mem_asked.2 htext)
  noRoot := by
    cases new with
    | none => simpa using h.noRoot
    | some uri =>
      rw [Option.toList_some, List.map_append, List.map_singleton, List.mem_append,
        List.mem_singleton, not_or]
      exact ⟨h.noRoot, (hnew uri rfl).1.symm⟩
  queued := by
    have hhanded : (s.answers ++ [answer]).filterMap Answer.document? =
        s.handed ++ answer.document?.toList := by
      rw [List.filterMap_append, handed]
      cases hdocument : answer.document? <;> simp [hdocument]
    rw [Session.queued, Session.handed, hhanded, List.append_assoc, hqueue, ← List.append_assoc,
      ← Session.queued, h.queued, List.filterMap_append]
    cases new with
    | none => rfl
    | some uri => cases hserved : source.serve? uri <;> simp [hserved]
  failed := by
    intro text reason
    rw [List.mem_append, List.mem_singleton, h.failed, eq_comm (b := answer), hfailed]
    simp only [List.mem_append, Option.mem_toList, Option.mem_def, or_and_right, exists_or]

/-- **One more call keeps the order.** -/
theorem ask (h : s.Orderly root source) (call : Call) : (s.ask call).Orderly root source := by
  have hstep := s.resolver.outcome call
  unfold Session.ask
  generalize (s.resolver.step call).1 = answer at hstep ⊢
  generalize (s.resolver.step call).2 = after at hstep ⊢
  generalize s.resolver.fetches? call = new at hstep ⊢
  cases hstep with
  | unresolvable _ | known _ _ =>
    exact h.extend h.sameRoot h.sameSource rfl (fun _ hnone => nomatch hnone)
      (by simp [Answer.document?])
      fun _ _ => ⟨fun heq => (nomatch heq), fun ⟨_, hnone, _⟩ => nomatch hnone⟩
  | handed =>
    exact h.extend h.sameRoot h.sameSource rfl (fun _ hnone => nomatch hnone)
      (by cases s.resolver.pending <;> simp [Answer.document?])
      fun _ _ => ⟨fun heq => (nomatch heq), fun ⟨_, hnone, _⟩ => nomatch hnone⟩
  | served htarget hroot hnew hfetch =>
    rw [h.sameRoot] at hroot
    rw [h.sameSource] at hfetch
    refine h.extend h.sameRoot h.sameSource rfl (fun uri huri => ?_) ?_ fun text reason => ?_
    · cases huri
      exact ⟨hroot, hnew⟩
    · simp [Answer.document?, DocumentSource.serve?_of_ok hfetch]
    · refine ⟨fun heq => (nomatch heq), fun ⟨uri, huri, _, herror⟩ => ?_⟩
      cases huri
      cases hfetch.symm.trans herror
  | refused htarget hroot hnew hfetch =>
    rw [h.sameRoot] at hroot
    rw [h.sameSource] at hfetch
    refine h.extend h.sameRoot h.sameSource rfl (fun uri huri => ?_) ?_ fun text reason => ?_
    · cases huri
      exact ⟨hroot, hnew⟩
    · simp [Answer.document?, DocumentSource.serve?_of_error hfetch]
    · constructor
      · intro heq
        cases heq
        exact ⟨_, rfl, rfl, hfetch⟩
      · rintro ⟨uri, huri, rfl, herror⟩
        cases huri
        cases hfetch.symm.trans herror
        rfl

end Session.Orderly

/-- **Every session is in order.** -/
theorem orderly_session (schema : Json) (base : Uri) (source : DocumentSource)
    (calls : List Call) :
    ((start schema base source).session calls).Orderly (rootUri schema base) source := by
  induction calls using List.reverseRecOn with
  | nil => exact ⟨rfl, rfl, rfl, List.nodup_nil, List.not_mem_nil, rfl, by simp⟩
  | append_singleton calls call ih =>
    rw [session_concat]
    exact ih.ask call

/-! ### What a session learns from the source -/

/-- The resolver with another source behind it. -/
def withSource (r : Resolver) (other : DocumentSource) : Resolver := { r with source := other }

/-- A request learns nothing from the source but the document, if it is new. -/
theorem request_withSource {r : Resolver} {other : DocumentSource} {document : Uri}
    (h : ¬ (r.isRoot document || r.asked.contains document.text) →
      other.fetch document = r.source.fetch document) :
    (r.withSource other).request document =
      ((r.request document).1, (r.request document).2.withSource other) := by
  by_cases hknown : (r.isRoot document || r.asked.contains document.text) = true
  · have hknown' : ((r.withSource other).isRoot document ||
        (r.withSource other).asked.contains document.text) = true := hknown
    rw [request, request, if_pos hknown, if_pos hknown']
  · have hknown' : ¬ ((r.withSource other).isRoot document ||
        (r.withSource other).asked.contains document.text) = true := hknown
    rw [request, request, if_neg hknown, if_neg hknown']
    dsimp only [withSource]
    rw [h hknown]
    cases r.source.fetch document <;> rfl

/-- A call learns nothing from the source but the document that it fetches. -/
theorem step_withSource {r : Resolver} {other : DocumentSource} {call : Call}
    (h : ∀ uri ∈ r.fetches? call, other.fetch uri = r.source.fetch uri) :
    (r.withSource other).step call = ((r.step call).1, (r.step call).2.withSource other) := by
  cases call with
  | next =>
    rw [step, step, next?_eq, next?_eq]
    rfl
  | resolve reference scope site =>
    rw [fetches?] at h
    rw [step, step, resolve, resolve]
    cases htarget : target? scope reference with
    | none => rfl
    | some target =>
      obtain ⟨document, fragment⟩ := target
      rw [htarget] at h
      dsimp only at h ⊢
      by_cases hpointer : isPointer fragment = true
      · rw [if_neg (not_not.2 hpointer), if_neg (not_not.2 hpointer),
          request_withSource fun hnew => h document (if_pos ⟨hpointer, hnew⟩)]
        generalize r.request document = answer
        obtain ⟨result, after⟩ := answer
        cases result <;> rfl
      · rw [if_pos hpointer, if_pos hpointer]

theorem source_step (r : Resolver) (call : Call) : (r.step call).2.source = r.source := by
  have h := r.outcome call
  generalize (r.step call).1 = answer at h
  generalize (r.step call).2 = after at h ⊢
  generalize r.fetches? call = new at h
  cases h <;> rfl

theorem source_session (r : Resolver) (calls : List Call) :
    (r.session calls).resolver.source = r.source := by
  induction calls using List.reverseRecOn with
  | nil => rfl
  | append_singleton calls call ih =>
    rw [session_concat, Session.ask, source_step, ih]

/-- **A session learns nothing from the source but the documents that it fetches.** -/
theorem session_withSource {r : Resolver} {other : DocumentSource} {calls : List Call}
    (h : ∀ uri ∈ (r.session calls).fetched, other.fetch uri = r.source.fetch uri) :
    (r.withSource other).session calls =
      { r.session calls with resolver := (r.session calls).resolver.withSource other } := by
  induction calls using List.reverseRecOn with
  | nil => rfl
  | append_singleton calls call ih =>
    rw [session_concat, Session.ask] at h ⊢
    rw [session_concat, Session.ask, ih fun uri huri => h uri (List.mem_append_left _ huri)]
    rw [step_withSource fun uri huri => ?_]
    · rfl
    · rw [source_session]
      exact h uri (List.mem_append_right _ (Option.mem_toList.2 huri))

/-! ### Documents that were refused -/

/-- The documents that were queued under the text of a URI. -/
def Session.queuedAs (s : Session) (text : String) : List (Uri × Json) :=
  s.queued.filter fun d => d.1.text = text

/-- Among URIs with different texts one alone has the text of its own. -/
theorem filter_text_eq {uris : List Uri} (hnodup : (uris.map Uri.text).Nodup) {uri : Uri}
    (hmem : uri ∈ uris) : uris.filter (fun other => other.text = uri.text) = [uri] := by
  induction uris with
  | nil => cases hmem
  | cons first rest ih =>
    rw [List.map_cons, List.nodup_cons] at hnodup
    rcases List.mem_cons.1 hmem with rfl | hmem
    · rw [List.filter_cons_of_pos (by simp), List.filter_eq_nil_iff.2 fun other hother heq => ?_]
      exact hnodup.1 (of_decide_eq_true heq ▸ List.mem_map_of_mem hother)
    · have hne : first.text ≠ uri.text := fun heq => hnodup.1 (heq ▸ List.mem_map_of_mem hmem)
      rw [List.filter_cons_of_neg (by simpa using hne), ih hnodup.2 hmem]

namespace Session.Orderly

variable {s : Session} (h : s.Orderly root source) {uri : Uri} (huri : uri ∈ s.fetched)

include h huri

/-- A document that was fetched is queued once if the source served it, and else never. -/
theorem queuedAs_text : s.queuedAs uri.text = (source.serve? uri).toList := by
  have hkeys : ∀ other, (source.serve? other).filter (fun d => d.1.text = uri.text) =
      if decide (other.text = uri.text) = true then source.serve? other else none := by
    intro other
    cases hserved : source.serve? other with
    | none => simp
    | some d =>
      obtain ⟨rfl, -⟩ := DocumentSource.serve?_eq_some.1 hserved
      rw [Option.filter_some]
  calc s.queuedAs uri.text
      = s.fetched.filterMap fun other =>
          (source.serve? other).filter fun d => d.1.text = uri.text := by
        rw [queuedAs, h.queued, List.filter_filterMap]
    _ = (s.fetched.filter fun other => other.text = uri.text).filterMap source.serve? := by
        rw [List.filterMap_filter]
        simp only [hkeys]
    _ = (source.serve? uri).toList := by
        rw [filter_text_eq h.once huri]
        cases hserved : source.serve? uri <;> simp [hserved]

/-- A call failed for a document that was fetched exactly when the source did not serve it. -/
theorem refused_iff : (∃ reason, .failure (.fetchFailed uri.text reason) ∈ s.answers) ↔
    source.serve? uri = none := by
  constructor
  · rintro ⟨reason, hmem⟩
    obtain ⟨other, hother, htext, herror⟩ := (h.failed _ _).1 hmem
    -- the two URIs are one, for no text was fetched twice
    obtain rfl := List.inj_on_of_nodup_map h.once hother huri htext
    exact DocumentSource.serve?_of_error herror
  · intro hnone
    cases hfetch : source.fetch uri with
    | ok value =>
      rw [DocumentSource.serve?_of_ok hfetch] at hnone
      cases hnone
    | error reason => exact ⟨reason, (h.failed _ _).2 ⟨uri, huri, rfl, hfetch⟩⟩

end Session.Orderly

/-- A document other than the root, for which a call is answered with a pointer, has been fetched by
that call or before it. -/
theorem Session.Orderly.exists_fetched {s : Session} (h : s.Orderly root source)
    {reference site fragment pointer : String} {scope document : Uri}
    (htarget : target? scope reference = some (document, fragment))
    (hother : document.text ≠ root.text)
    (hanswer : (s.resolver.step (.resolve reference scope site)).1 = .pointer pointer) :
    ∃ uri ∈ (s.ask (.resolve reference scope site)).fetched, uri.text = document.text := by
  have hstep := s.resolver.outcome (.resolve reference scope site)
  rw [hanswer] at hstep
  unfold Session.ask
  generalize s.resolver.fetches? (.resolve reference scope site) = new at hstep ⊢
  generalize (s.resolver.step (.resolve reference scope site)).2 = after at hstep
  cases hstep with
  | known htarget' hknown =>
    cases htarget.symm.trans htarget'
    rw [h.sameRoot] at hknown
    obtain ⟨uri, huri, htext⟩ := List.mem_map.1 (h.mem_asked.1 (hknown.resolve_left hother))
    exact ⟨uri, List.mem_append_left _ huri, htext⟩
  | served htarget' _ _ _ =>
    cases htarget.symm.trans htarget'
    exact ⟨document, List.mem_append_right _ (List.mem_singleton_self _), rfl⟩

/-- **An answer that names a place in another document is good for a document that was served and
queued, once, by this call or an earlier one, exactly when no earlier call has failed for it.** -/
theorem queuedAs_iff_never_refused {schema : Json} {base : Uri} {source : DocumentSource}
    {calls : List Call} {reference site fragment pointer : String} {scope document : Uri}
    (htarget : target? scope reference = some (document, fragment))
    (hother : document.text ≠ (rootUri schema base).text)
    (hanswer : (((start schema base source).session calls).resolver.step
      (.resolve reference scope site)).1 = .pointer pointer) :
    (∃ d, source.fetch document = .ok d.2 ∧
      ((start schema base source).session
        (calls ++ [.resolve reference scope site])).queuedAs document.text = [d]) ↔
      ∀ reason, .failure (.fetchFailed document.text reason) ∉
        ((start schema base source).session calls).answers := by
  have hbefore := orderly_session schema base source calls
  have hafter := orderly_session schema base source (calls ++ [.resolve reference scope site])
  rw [session_concat] at hafter ⊢
  obtain ⟨uri, huri, htext⟩ := hbefore.exists_fetched htarget hother hanswer
  -- this call does not fail, so failures are those of earlier calls
  have hanswers : ∀ reason, .failure (.fetchFailed uri.text reason) ∈
      (((start schema base source).session calls).ask (.resolve reference scope site)).answers ↔
        .failure (.fetchFailed uri.text reason) ∈
          ((start schema base source).session calls).answers := by
    intro reason
    rw [Session.ask, hanswer, List.mem_append, List.mem_singleton]
    exact or_iff_left fun heq => nomatch heq
  rw [← htext, hafter.queuedAs_text huri, ← not_exists, ← exists_congr hanswers,
    hafter.refused_iff huri]
  constructor
  · rintro ⟨d, -, hlist⟩ hnone
    rw [hnone] at hlist
    cases hlist
  · intro hserved
    obtain ⟨d, hd⟩ := Option.ne_none_iff_exists'.1 hserved
    exact ⟨d, DocumentSource.fetch_of_text_eq htext (DocumentSource.serve?_eq_some.1 hd).2,
      by rw [hd, Option.toList_some]⟩

/-- The document that a sibling of the root's serves is queued by the call that names it. -/
theorem queuedAs_other :
    target? defaultRoot "other.json" = some (otherUri, "") ∧
      otherUri.text ≠ (rootUri (.object []) defaultRoot).text ∧
      (((start (.object []) defaultRoot otherSource).session [.next]).resolver.step
        (.resolve "other.json" defaultRoot "#")).1 =
          .pointer "#/$external/file:~1~1~1other.json" ∧
      ∃ d, otherSource.fetch otherUri = .ok d.2 ∧
        ((start (.object []) defaultRoot otherSource).session
          ([.next] ++ [.resolve "other.json" defaultRoot "#"])).queuedAs otherUri.text = [d] := by
  have htarget : target? defaultRoot "other.json" = some (otherUri, "") := by decide +kernel
  have hother : otherUri.text ≠ (rootUri (.object []) defaultRoot).text := by decide +kernel
  have hanswer : (((start (.object []) defaultRoot otherSource).session [.next]).resolver.step
      (.resolve "other.json" defaultRoot "#")).1 =
        .pointer "#/$external/file:~1~1~1other.json" := by
    rfl
  refine ⟨htarget, hother, hanswer, (queuedAs_iff_never_refused htarget hother hanswer).2 ?_⟩
  intro reason hmem
  rw [show ((start (.object []) defaultRoot otherSource).session [.next]).answers =
    [.document none] from rfl, List.mem_singleton] at hmem
  cases hmem

/-- **A document that was refused is answered for when it is named again**: the second of two equal
calls leads into a document that the source does not serve and that is never queued. -/
theorem resolve_answers_refused_document :
    DocumentSource.none.serve? otherUri = none ∧
      ((start (.object []) defaultRoot .none).session
        [.resolve "other.json" defaultRoot "#", .resolve "other.json" defaultRoot "#"]).answers =
          [.failure (.fetchFailed otherText
              "external references are disabled (file:///other.json)"),
            .pointer "#/$external/file:~1~1~1other.json"] ∧
      ((start (.object []) defaultRoot .none).session
        [.resolve "other.json" defaultRoot "#", .resolve "other.json" defaultRoot "#"]).queued =
          [] :=
  ⟨rfl, rfl, rfl⟩

end Resolver
end SchemaTypings
