import Mathlib.Data.List.Flatten
import Mathlib.Data.List.Forall2
import Mathlib.Data.List.Nodup
import SchemaTypings.Proofs.PointerTexts
import SchemaTypings.Proofs.SchemaPlaces

/-! # Subschemas changed in place

A visitor that changes each subschema where it stands, and that may fail, passes over the subschemas
of an object in document order.  Each is visited once, with a pointer that names it; what the visitor
leaves stands in its place, and all else stays as it was.  Behind a failure nothing is visited and
nothing is changed.
-/
namespace SchemaTypings

/-- A value in a value, behind the segments that lead to it. -/
abbrev Spot := List String × Json

/-- The same value seen from one step above. -/
def Spot.behind (segment : String) (spot : Spot) : Spot := (segment :: spot.1, spot.2)

namespace Json

mutual

/-- **The values in a value in document order**: each one before what stands in it, and what stands
in it as it is written. -/
def spots : Json → List Spot
  | .array items => ([], .array items) :: itemSpots 0 items
  | .object entries => ([], .object entries) :: entrySpots entries
  | value => [([], value)]

/-- The values in the items of an array, from some position on. -/
def itemSpots : Nat → List Json → List Spot
  | _, [] => []
  | i, item :: rest => (spots item).map (Spot.behind (toString i)) ++ itemSpots (i + 1) rest

/-- The values in the entries of an object. -/
def entrySpots : List (String × Json) → List Spot
  | [] => []
  | (key, value) :: rest => (spots value).map (Spot.behind key) ++ entrySpots rest

end

theorem itemSpots_eq (i : Nat) (items : List Json) : itemSpots i items =
    (items.zipIdx i).flatMap fun item => (spots item.1).map (Spot.behind (toString item.2)) := by
  induction items generalizing i with
  | nil => rfl
  | cons item rest ih => rw [itemSpots, ih, List.zipIdx_cons, List.flatMap_cons]

theorem entrySpots_eq (entries : Dict Json) : entrySpots entries =
    entries.flatMap fun entry => (spots entry.2).map (Spot.behind entry.1) := by
  induction entries with
  | nil => rfl
  | cons entry rest ih => rw [entrySpots, ih, List.flatMap_cons]

/-- A value comes first among the values in it. -/
theorem mem_spots_self (value : Json) : ([], value) ∈ value.spots := by
  cases value <;> exact List.mem_cons_self

/-- **The same but for what stands at some paths**, which are `free`. -/
inductive SameBut (free : List String → Prop) : List String → Json → Json → Prop
  | free {path : List String} (h : free path) (value other : Json) : SameBut free path value other
  | same (path : List String) (value : Json) : SameBut free path value value
  | array {path : List String} {items others : List Json} (hlength : others.length = items.length)
      (h : ∀ (i : Nat) item other, items[i]? = some item → others[i]? = some other →
        SameBut free (path ++ [toString i]) item other) :
      SameBut free path (.array items) (.array others)
  | object {path : List String} {entries others : Dict Json} (hkeys : others.keys = entries.keys)
      (h : ∀ (i : Nat) entry other, entries[i]? = some entry → others[i]? = some other →
        SameBut free (path ++ [entry.1]) entry.2 other.2) :
      SameBut free path (.object entries) (.object others)

end Json

namespace Subschema

/-! ### The subschemas of an object -/

/-- **The subschemas of an object**, keyword by keyword, each behind the segments that lead to it. -/
def places (entries : Dict Json) : List Spot :=
  entries.flatMap fun entry => (below entry.1 entry.2).map (Spot.behind entry.1)

theorem places_cons (entry : String × Json) (rest : Dict Json) : places (entry :: rest) =
    (below entry.1 entry.2).map (Spot.behind entry.1) ++ places rest := List.flatMap_cons

/-- Values that stand one step below another, in order. -/
theorem map_sublist_flatMap {α : Type} (segment : α → String) (value : α → Json) (as : List α) :
    (as.map fun a => (([segment a], value a) : Spot)).Sublist
      (as.flatMap fun a => (value a).spots.map (Spot.behind (segment a))) := by
  rw [List.map_eq_flatMap]
  exact .flatMap_right as fun a _ =>
    List.singleton_sublist.2 (List.mem_map_of_mem (value a).mem_spots_self)

/-- The subschemas under a keyword are among the values in its value, in document order. -/
theorem below_sublist (keyword : String) (value : Json) :
    (below keyword value).Sublist value.spots := by
  have hwhole : ∀ value : Json, [(([], value) : Spot)].Sublist value.spots :=
    fun value => List.singleton_sublist.2 value.mem_spots_self
  have hlisted : ∀ items : List Json,
      (items.zipIdx.map fun item => (([toString item.2], item.1) : Spot)).Sublist
        (Json.array items).spots := by
    intro items
    rw [Json.spots, Json.itemSpots_eq]
    exact (map_sublist_flatMap (fun item => toString item.2) Prod.fst items.zipIdx).cons _
  unfold below
  split
  · next entries _ =>
    rw [Json.spots, Json.entrySpots_eq]
    exact (map_sublist_flatMap Prod.fst Prod.snd entries).cons _
  · exact hwhole _
  · exact hlisted _
  · exact hlisted _
  · exact hwhole _
  · exact List.nil_sublist _

/-- **Subschemas come in document order.** -/
theorem places_sublist (entries : Dict Json) :
    (places entries).Sublist (Json.object entries).spots := by
  rw [Json.spots, Json.entrySpots_eq]
  exact (List.Sublist.flatMap_right entries fun entry _ =>
    (below_sublist entry.1 entry.2).map _).cons _

/-! ### Distinct paths -/

/-- Paths that begin with distinct segments, or go on distinctly behind one segment. -/
theorem nodup_flatMap_cons {α : Type} {segment : α → String} {paths : α → List (List String)}
    {as : List α} (hsegments : (as.map segment).Nodup) (hpaths : ∀ a ∈ as, (paths a).Nodup) :
    (as.flatMap fun a => (paths a).map (segment a :: ·)).Nodup := by
  rw [List.nodup_flatMap]
  refine ⟨fun a ha => (hpaths a ha).map fun _ _ h => (List.cons.inj h).2, ?_⟩
  refine (List.pairwise_map.1 hsegments).imp fun hne path hpath hother => ?_
  obtain ⟨first, -, rfl⟩ := List.mem_map.1 hpath
  obtain ⟨second, -, heq⟩ := List.mem_map.1 hother
  exact hne (List.cons.inj heq).1.symm

/-- One segment for each subschema under a keyword, or none. -/
theorem nodup_below {keyword : String} {value : Json} (hkeys : value.hasDistinctKeys = true) :
    ((below keyword value).map Prod.fst).Nodup := by
  have hsegments : ∀ {α : Type} {segment : α → String} {child : α → Json} {as : List α},
      (as.map segment).Nodup → ((as.map fun a => (([segment a], child a) : Spot)).map
        Prod.fst).Nodup := by
    intro α segment child as h
    rw [List.map_map]
    have hmap : as.map (Prod.fst ∘ fun a => (([segment a], child a) : Spot)) =
        (as.map segment).map fun segment => [segment] := by
      rw [List.map_map]
      rfl
    rw [hmap]
    exact h.map fun _ _ heq => (List.cons.inj heq).1
  have hlisted : ∀ items : List Json,
      ((items.zipIdx.map fun item => (([toString item.2], item.1) : Spot)).map Prod.fst).Nodup := by
    intro items
    refine hsegments ?_
    have hindices : items.zipIdx.map (fun item => toString item.2) =
        (List.range items.length).map toString := by
      rw [List.range_eq_range', ← List.zipIdx_map_snd 0 items, List.map_map]
      rfl
    rw [hindices]
    refine List.nodup_range.map fun i j h => ?_
    have hread := congrArg Pointer.index? h
    rw [Pointer.index?_toString, Pointer.index?_toString] at hread
    exact Option.some.inj hread
  unfold below
  split
  · exact hsegments (Json.hasDistinctKeys_object.1 hkeys).1
  · exact List.nodup_singleton _
  · exact hlisted _
  · exact hlisted _
  · exact List.nodup_singleton _
  · exact List.nodup_nil

section Distinct

variable {entries : Dict Json} (hkeys : (Json.object entries).hasDistinctKeys = true)
include hkeys

/-- **No two subschemas have one path.** -/
theorem nodup_places : ((places entries).map Prod.fst).Nodup := by
  obtain ⟨hdistinct, hvalues⟩ := Json.hasDistinctKeys_object.1 hkeys
  have hpaths : (places entries).map Prod.fst =
      entries.flatMap fun entry => ((below entry.1 entry.2).map Prod.fst).map (entry.1 :: ·) := by
    rw [places, List.map_flatMap]
    refine List.flatMap_congr fun entry _ => ?_
    rw [List.map_map, List.map_map]
    rfl
  rw [hpaths]
  exact nodup_flatMap_cons hdistinct fun entry hentry => nodup_below (hvalues entry hentry)

/-- The pointers to subschemas are distinct. -/
theorem nodup_pointers (path : String) :
    ((places entries).map fun spot => Pointer.build path spot.1).Nodup := by
  have hpointers : (places entries).map (fun spot => Pointer.build path spot.1) =
      ((places entries).map Prod.fst).map (Pointer.build path) := by
    rw [List.map_map]
    rfl
  rw [hpointers]
  refine (nodup_places hkeys).map fun segments others h => ?_
  have hsplit := congrArg Pointer.split h
  rw [Pointer.split_build, Pointer.split_build] at hsplit
  exact List.append_cancel_left hsplit

/-- **The pointer of a subschema names it**, wherever the object stands. -/
theorem resolve?_of_mem_places {document : Json} {path : String}
    (hobject : Pointer.resolve? document path = some (.object entries)) {spot : Spot}
    (hspot : spot ∈ places entries) :
    Pointer.resolve? document (Pointer.build path spot.1) = some spot.2 := by
  obtain ⟨hdistinct, hvalues⟩ := Json.hasDistinctKeys_object.1 hkeys
  obtain ⟨⟨keyword, value⟩, hentry, hmem⟩ := List.mem_flatMap.1 hspot
  obtain ⟨child, hchild, rfl⟩ := List.mem_map.1 hmem
  rw [Pointer.resolve?_build, hobject]
  have hvalue : Pointer.step? (.object entries) keyword = some value :=
    Dict.get?_of_mem hdistinct hentry
  have hleads := leads_of_mem_below (hvalues _ hentry) hchild
  change (Pointer.step? (.object entries) keyword).bind _ = _
  rw [hvalue]
  exact hleads.follow?

end Distinct

/-! ### Forms of values -/

/-- The value of a keyword with answers in the place of the subschemas that it holds. -/
def put (keyword : String) (value : Json) (answers : List Json) : Json :=
  match Keyword.role? keyword, value with
  | some .named, .object entries => .object ((Dict.keys entries).zip answers)
  | some .single, .object _ => answers.headD value
  | some .listed, .array _ => .array answers
  | some .either, .array _ => .array answers
  | some .either, .object _ => answers.headD value
  | _, _ => value

/-- **The forms of what a keyword may hold**: schemas under names, one schema, a list of schemas, or
nothing that is visited. -/
inductive Form (keyword : String) : Json → Prop
  | named {entries : Dict Json} (hrole : Keyword.role? keyword = some .named) :
    Form keyword (.object entries)
  | whole {entries : Dict Json}
    (hrole : Keyword.role? keyword = some .single ∨ Keyword.role? keyword = some .either) :
    Form keyword (.object entries)
  | listed {items : List Json}
    (hrole : Keyword.role? keyword = some .listed ∨ Keyword.role? keyword = some .either) :
    Form keyword (.array items)
  | passed {value : Json} (hbelow : below keyword value = [])
    (hput : ∀ answers, put keyword value answers = value)
    (hmap : ∀ {m : Type → Type} [Monad m] (visit : String → Json → m Json) (path : String),
      mapKeyword visit path keyword value = pure value) : Form keyword value

theorem form (keyword : String) (value : Json) : Form keyword value := by
  rcases hrole : Keyword.role? keyword with _ | (_ | _ | _ | _) <;> cases value
  case some.named.object => exact .named hrole
  case some.single.object => exact .whole (Or.inl hrole)
  case some.either.object => exact .whole (Or.inr hrole)
  case some.listed.array => exact .listed (Or.inl hrole)
  case some.either.array => exact .listed (Or.inr hrole)
  all_goals
    exact .passed (by simp only [below, hrole]) (fun _ => by simp only [put, hrole])
      fun _ _ => by simp only [mapKeyword, hrole]

section Forms

variable {keyword : String} {entries : Dict Json} {items : List Json}

theorem below_named (hrole : Keyword.role? keyword = some .named) :
    below keyword (.object entries) = entries.map fun entry => ([entry.1], entry.2) := by
  simp only [below, hrole]

theorem below_whole
    (hrole : Keyword.role? keyword = some .single ∨ Keyword.role? keyword = some .either) :
    below keyword (.object entries) = [([], .object entries)] := by
  rcases hrole with hrole | hrole <;> simp only [below, hrole]

theorem below_listed
    (hrole : Keyword.role? keyword = some .listed ∨ Keyword.role? keyword = some .either) :
    below keyword (.array items) = items.zipIdx.map fun item => ([toString item.2], item.1) := by
  rcases hrole with hrole | hrole <;> simp only [below, hrole]

theorem put_named (hrole : Keyword.role? keyword = some .named) (answers : List Json) :
    put keyword (.object entries) answers = .object (entries.keys.zip answers) := by
  simp only [put, hrole]

theorem put_whole
    (hrole : Keyword.role? keyword = some .single ∨ Keyword.role? keyword = some .either)
    (answers : List Json) :
    put keyword (.object entries) answers = answers.headD (.object entries) := by
  rcases hrole with hrole | hrole <;> simp only [put, hrole]

theorem put_listed
    (hrole : Keyword.role? keyword = some .listed ∨ Keyword.role? keyword = some .either)
    (answers : List Json) : put keyword (.array items) answers = .array answers := by
  rcases hrole with hrole | hrole <;> simp only [put, hrole]

end Forms

/-- Visits to values under keys, with the keys put back. -/
theorem mapM_keyed {m : Type → Type} [Monad m] [LawfulMonad m] (f : String × Json → m Json)
    (entries : Dict Json) : (List.mapM (fun entry => do
      let child ← f entry
      return (entry.1, child)) entries : m (Dict Json)) =
        (fun answers => entries.keys.zip answers) <$> List.mapM f entries := by
  induction entries with
  | nil => simp [Dict.keys]
  | cons entry rest ih =>
    simp only [List.mapM_cons, ih, map_bind, bind_map_left, bind_assoc, map_pure, pure_bind]
    rfl

/-- **Visiting a keyword** is visiting the subschemas that it holds, and putting the answers in their
places. -/
theorem mapKeyword_eq {m : Type → Type} [Monad m] [LawfulMonad m] (visit : String → Json → m Json)
    (path keyword : String) (value : Json) : mapKeyword visit path keyword value =
      put keyword value <$> (below keyword value).mapM fun spot =>
        visit (Pointer.build path (keyword :: spot.1)) spot.2 := by
  cases form keyword value with
  | @named entries hrole =>
    simp only [mapKeyword, hrole, below_named hrole, List.mapM_map, funext (put_named hrole)]
    rw [mapM_keyed fun entry : String × Json =>
      visit (Pointer.build path [keyword, entry.1]) entry.2, bind_map_left, map_eq_pure_bind]
    rfl
  | @whole entries hrole =>
    have hmap : mapKeyword visit path keyword (.object entries) =
        visit (Pointer.build path [keyword]) (.object entries) := by
      rcases hrole with hrole | hrole <;> simp only [mapKeyword, hrole]
    simp only [hmap, below_whole hrole, List.mapM_cons, List.mapM_nil, pure_bind, map_bind,
      map_pure, funext (put_whole hrole), List.headD_cons, bind_pure]
  | @listed items hrole =>
    have hmap : mapKeyword visit path keyword (.array items) = do
        let items ← items.zipIdx.mapM fun item =>
          visit (Pointer.build path [keyword, toString item.2]) item.1
        return .array items := by
      rcases hrole with hrole | hrole <;> simp only [mapKeyword, hrole]
    simp only [hmap, below_listed hrole, List.mapM_map, funext (put_listed hrole), map_eq_pure_bind]
    rfl
  | passed hbelow hput hmap =>
    rw [hmap, hbelow, List.mapM_nil, map_pure, hput]

/-- **Answers stand where the subschemas were.** -/
theorem follow?_put {keyword : String} {value : Json} {answers : List Json}
    (hlength : answers.length = (below keyword value).length)
    (hkeys : value.hasDistinctKeys = true) :
    List.Forall₂ (fun spot answer =>
      Pointer.follow? (put keyword value answers) spot.1 = some answer)
        (below keyword value) answers := by
  cases form keyword value with
  | @named entries hrole =>
    rw [below_named hrole] at hlength ⊢
    rw [put_named hrole]
    have hdistinct : (Dict.keys (entries.keys.zip answers)).Nodup := by
      rw [Dict.keys, List.map_fst_zip (by simp [Dict.keys, hlength])]
      exact (Json.hasDistinctKeys_object.1 hkeys).1
    refine List.forall₂_map_left_iff.2 (List.forall₂_iff_zip.2 ⟨by simpa using hlength.symm,
      fun {entry answer} hmem => ?_⟩)
    have hentry : (entry.1, answer) ∈ entries.keys.zip answers := by
      rw [Dict.keys, List.zip_map_left]
      exact List.mem_map.2 ⟨(entry, answer), hmem, rfl⟩
    rw [Pointer.follow?, Pointer.step?, Dict.get?_of_mem hdistinct hentry]
    rfl
  | whole hrole =>
    rw [below_whole hrole] at hlength ⊢
    obtain ⟨answer, rfl⟩ := List.length_eq_one_iff.1 hlength
    rw [put_whole hrole]
    exact .cons rfl .nil
  | @listed items hrole =>
    rw [below_listed hrole] at hlength ⊢
    rw [put_listed hrole]
    refine List.forall₂_map_left_iff.2 (List.forall₂_iff_zip.2 ⟨by simpa using hlength.symm,
      fun {item answer} hmem => ?_⟩)
    obtain ⟨i, hi⟩ := List.mem_iff_getElem?.1 hmem
    obtain ⟨hitem, hanswer⟩ := List.getElem?_zip_eq_some.1 hi
    rw [List.getElem?_zipIdx, Option.map_eq_some_iff] at hitem
    obtain ⟨_, -, rfl⟩ := hitem
    rw [Pointer.follow?, Pointer.step?, Pointer.index?_toString, Option.bind_some, Nat.zero_add,
      hanswer]
    rfl
  | passed hbelow =>
    rw [hbelow] at hlength ⊢
    rw [List.length_eq_zero_iff.1 hlength]
    exact .nil

/-- **Answers change nothing but the subschemas.** -/
theorem sameBut_put {keyword : String} {value : Json} {answers : List Json}
    (hlength : answers.length = (below keyword value).length) {free : List String → Prop}
    {path : List String} (hfree : ∀ spot ∈ below keyword value, free (path ++ spot.1)) :
    Json.SameBut free path value (put keyword value answers) := by
  cases form keyword value with
  | @named entries hrole =>
    rw [below_named hrole] at hlength hfree
    rw [put_named hrole]
    refine .object (List.map_fst_zip (by simp [Dict.keys, hlength])) fun i entry other hentry _ => ?_
    exact .free (hfree _ (List.mem_map_of_mem (List.mem_of_getElem? hentry))) _ _
  | whole hrole =>
    rw [below_whole hrole] at hlength hfree
    obtain ⟨answer, rfl⟩ := List.length_eq_one_iff.1 hlength
    rw [put_whole hrole]
    have hhere := hfree _ (List.mem_singleton_self _)
    rw [List.append_nil] at hhere
    exact .free hhere _ _
  | @listed items hrole =>
    rw [below_listed hrole] at hlength hfree
    rw [put_listed hrole]
    refine .array (by simpa using hlength) fun i item other hitem _ => ?_
    exact .free (hfree _ (List.mem_map_of_mem (List.mk_mem_zipIdx_iff_getElem?.2 hitem))) _ _
  | passed _ hput =>
    rw [hput]
    exact .same _ _

/-! ### Answers in their places -/

/-- **An object with answers in the place of its subschemas.** -/
def refill : Dict Json → List Json → Dict Json
  | [], _ => []
  | (keyword, value) :: rest, answers =>
    (keyword, put keyword value (answers.take (below keyword value).length)) ::
      refill rest (answers.drop (below keyword value).length)

@[simp] theorem keys_refill (entries : Dict Json) (answers : List Json) :
    Dict.keys (refill entries answers) = entries.keys := by
  induction entries generalizing answers with
  | nil => rfl
  | cons entry rest ih => exact congrArg (entry.1 :: ·) (ih _)

/-- The answers for the first keyword of an object, and those for the others. -/
theorem length_take_drop {entry : String × Json} {rest : Dict Json} {answers : List Json}
    (hlength : answers.length = (places (entry :: rest)).length) :
    (answers.take (below entry.1 entry.2).length).length = (below entry.1 entry.2).length ∧
      (answers.drop (below entry.1 entry.2).length).length = (places rest).length := by
  rw [places_cons, List.length_append, List.length_map] at hlength
  rw [List.length_take, List.length_drop]
  omega

theorem forall₂_follow?_refill {entries : Dict Json} {answers : List Json} {d : Dict Json}
    (hlength : answers.length = (places entries).length)
    (hvalues : ∀ entry ∈ entries, entry.2.hasDistinctKeys = true)
    (hd : ∀ entry ∈ refill entries answers, d.get? entry.1 = some entry.2) :
    List.Forall₂ (fun spot answer => Pointer.follow? (.object d) spot.1 = some answer)
      (places entries) answers := by
  induction entries generalizing answers with
  | nil =>
    rw [List.length_eq_zero_iff.1 hlength]
    exact .nil
  | cons entry rest ih =>
    obtain ⟨htake, hdrop⟩ := length_take_drop hlength
    rw [places_cons, ← List.take_append_drop (below entry.1 entry.2).length answers]
    refine List.rel_append (List.forall₂_map_left_iff.2 ?_)
      (ih hdrop (fun e he => hvalues e (List.mem_cons_of_mem _ he))
        fun e he => hd e (List.mem_cons_of_mem _ he))
    refine (follow?_put htake (hvalues entry List.mem_cons_self)).imp fun spot answer hfollow => ?_
    rw [Spot.behind, Pointer.follow?, Pointer.step?, hd _ List.mem_cons_self]
    exact hfollow

theorem forall₂_sameBut_refill {entries : Dict Json} {answers : List Json}
    (hlength : answers.length = (places entries).length) {free : List String → Prop}
    (hfree : ∀ spot ∈ places entries, free spot.1) :
    List.Forall₂ (fun entry other : String × Json => Json.SameBut free [entry.1] entry.2 other.2)
      entries (refill entries answers) := by
  induction entries generalizing answers with
  | nil => exact .nil
  | cons entry rest ih =>
    obtain ⟨htake, hdrop⟩ := length_take_drop hlength
    simp only [places_cons, List.mem_append] at hfree
    refine .cons (sameBut_put htake fun spot hspot => ?_)
      (ih hdrop fun spot hspot => hfree spot (Or.inr hspot))
    exact hfree _ (Or.inl (List.mem_map_of_mem hspot))

/-- **What refilling does to an object**: the answers stand where its subschemas were, and all else
is the same. -/
theorem refill_spec {entries : Dict Json} {answers : List Json}
    (hkeys : (Json.object entries).hasDistinctKeys = true)
    (hlength : answers.length = (places entries).length) :
    List.Forall₂ (fun spot answer =>
      Pointer.follow? (.object (refill entries answers)) spot.1 = some answer)
        (places entries) answers ∧
    Json.SameBut (· ∈ (places entries).map Prod.fst) [] (.object entries)
      (.object (refill entries answers)) := by
  obtain ⟨hdistinct, hvalues⟩ := Json.hasDistinctKeys_object.1 hkeys
  refine ⟨forall₂_follow?_refill hlength hvalues fun entry hentry => ?_, ?_⟩
  · refine Dict.get?_of_mem ?_ hentry
    rwa [keys_refill]
  · refine .object (keys_refill entries answers) fun i entry other hentry hother => ?_
    have hall := forall₂_sameBut_refill hlength fun spot hspot =>
      List.mem_map_of_mem (f := Prod.fst) hspot
    exact (List.forall₂_iff_zip.1 hall).2
      (List.mem_of_getElem? (List.getElem?_zip_eq_some.2 ⟨hentry, hother⟩))

end Subschema

/-! ### Changing in place -/

/-- **A visitor that changes a child in place**: given its pointer and a state, it leaves a child and
a state, and may fail. -/
abbrev Editor (σ ε : Type) := String → Json → σ → Json × σ × Option ε

namespace Editor

variable {σ ε : Type}

/-- One visit of a pass that stops at the first failure: behind one the child is left alone. -/
def step (e : Editor σ ε) (pointer : String) (child : Json) : StateM (σ × Option ε) Json :=
  fun t => match t.2 with
    | some _ => (child, t)
    | none => e pointer child t.1

/-- **A pass over children**, up to the first failure.  The children behind it are left alone. -/
def sweep (e : Editor σ ε) : List (String × Json) → σ → List Json × σ × Option ε
  | [], s => ([], s, none)
  | (pointer, child) :: rest, s =>
    match e pointer child s with
    | (child, s, some failure) => (child :: rest.map Prod.snd, s, some failure)
    | (child, s, none) =>
      let (children, s) := sweep e rest s
      (child :: children, s)

theorem mapM_step_of_failed (e : Editor σ ε) (calls : List (String × Json)) (s : σ) (failure : ε) :
    (calls.mapM fun call => e.step call.1 call.2).run (s, some failure) =
      (calls.map Prod.snd, s, some failure) := by
  induction calls with
  | nil => rfl
  | cons call rest ih =>
    have hstep : (e.step call.1 call.2).run (s, some failure) = (call.2, s, some failure) := rfl
    simp only [List.mapM_cons, run_bind_eq, run_pure_eq, hstep, ih, List.map_cons]

/-- Visiting step by step is passing over the children. -/
theorem mapM_step (e : Editor σ ε) (calls : List (String × Json)) (s : σ) :
    (calls.mapM fun call => e.step call.1 call.2).run (s, none) = e.sweep calls s := by
  induction calls generalizing s with
  | nil => rfl
  | cons call rest ih =>
    have hstep : (e.step call.1 call.2).run (s, none) = e call.1 call.2 s := rfl
    obtain ⟨pointer, child⟩ := call
    simp only [List.mapM_cons, run_bind_eq, run_pure_eq, hstep, sweep]
    obtain ⟨left, t, failed⟩ := e pointer child s
    cases failed with
    | some failure => simp only [mapM_step_of_failed]
    | none => simp only [ih]

theorem length_sweep (e : Editor σ ε) (calls : List (String × Json)) (s : σ) :
    (e.sweep calls s).1.length = calls.length := by
  induction calls generalizing s with
  | nil => rfl
  | cons call rest ih =>
    obtain ⟨pointer, child⟩ := call
    rw [sweep]
    obtain ⟨left, t, failed⟩ := e pointer child s
    cases failed with
    | some failure => simp
    | none => simp [ih]

end Editor

namespace Subschema

variable {σ ε : Type}

/-- The subschemas of an object, each with its pointer. -/
def calls (path : String) (entries : Dict Json) : List (String × Json) :=
  (places entries).map fun spot => (Pointer.build path spot.1, spot.2)

theorem run_map_eq {α β : Type} (f : α → β) (x : StateM σ α) (t : σ) :
    (f <$> x).run t = (f (x.run t).1, (x.run t).2) := rfl

/-- **Visiting an object** is visiting its subschemas one by one, and refilling it with the
answers. -/
theorem mapM_run (visit : String → Json → StateM σ Json) (path : String) (entries : Dict Json)
    (t : σ) : (mapM visit path entries).run t =
      (refill entries (((calls path entries).mapM fun call => visit call.1 call.2).run t).1,
        (((calls path entries).mapM fun call => visit call.1 call.2).run t).2) := by
  induction entries generalizing t with
  | nil => rfl
  | cons entry rest ih =>
    obtain ⟨keyword, value⟩ := entry
    have hcalls : calls path ((keyword, value) :: rest) =
        ((below keyword value).map fun spot => (Pointer.build path (keyword :: spot.1), spot.2)) ++
          calls path rest := by
      rw [calls, places_cons, List.map_append, List.map_map]
      rfl
    obtain ⟨answers, u, hfirst⟩ : ∃ answers u, ((below keyword value).mapM fun spot =>
        visit (Pointer.build path (keyword :: spot.1)) spot.2).run t = (answers, u) := ⟨_, _, rfl⟩
    have hlength : answers.length = (below keyword value).length := by
      have hsame := length_run_mapM (fun spot : Spot =>
        visit (Pointer.build path (keyword :: spot.1)) spot.2) (below keyword value) t
      rwa [hfirst] at hsame
    have hkeyword : (mapKeyword visit path keyword value).run t = (put keyword value answers, u) := by
      rw [mapKeyword_eq, run_map_eq, hfirst]
    have hall : ((calls path ((keyword, value) :: rest)).mapM fun call =>
        visit call.1 call.2).run t =
          (answers ++ (((calls path rest).mapM fun call => visit call.1 call.2).run u).1,
            (((calls path rest).mapM fun call => visit call.1 call.2).run u).2) := by
      rw [hcalls, List.mapM_append, List.mapM_map]
      simp only [run_bind_eq, run_pure_eq, Function.comp_def, hfirst]
    have hrest := ih u
    rw [mapM] at hrest ⊢
    simp only [List.mapM_cons, run_bind_eq, run_pure_eq, hkeyword, hrest, hall]
    rw [refill, ← hlength, List.take_left, List.drop_left]

/-- **The pass in place.**  An editor changes the subschemas of an object up to its first failure;
what it leaves stands in their places, and all else is the same. -/
theorem mapM_editor {entries : Dict Json} (hkeys : (Json.object entries).hasDistinctKeys = true)
    (path : String) (e : Editor σ ε) (s : σ) :
    ∃ result, (mapM e.step path entries).run (s, none) =
        (result, (e.sweep (calls path entries) s).2) ∧
      List.Forall₂ (fun spot answer => Pointer.follow? (.object result) spot.1 = some answer)
        (places entries) (e.sweep (calls path entries) s).1 ∧
      Json.SameBut (· ∈ (places entries).map Prod.fst) [] (.object entries) (.object result) := by
  refine ⟨refill entries (e.sweep (calls path entries) s).1, ?_, refill_spec hkeys ?_⟩
  · rw [mapM_run, e.mapM_step]
  · rw [e.length_sweep, calls, List.length_map]

end Subschema
end SchemaTypings
