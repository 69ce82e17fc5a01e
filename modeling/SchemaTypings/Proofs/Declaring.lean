import SchemaTypings.Declaration
import SchemaTypings.Proofs.Reachability
import SchemaTypings.Proofs.Stateful

/-! # Every named type is declared

Declaring goes over the reached types three times, each time for the types of its section.  When
all named types are to be declared, each name of a reached type stands at the head of a declaration
in the text.
-/
namespace SchemaTypings

/-- One of the texts that are put together stands in the whole. -/
theorem exists_intercalate_eq (separator : String) {text : String} {list : List String}
    (h : text ∈ list) :
    ∃ before after, separator.intercalate list = before ++ text ++ after := by
  obtain ⟨front, back, rfl⟩ := List.append_of_mem h
  have hback : ∃ after, separator.intercalate (text :: back) = text ++ after := by
    cases back with
    | nil => exact ⟨"", by simp⟩
    | cons b back =>
      exact ⟨separator ++ separator.intercalate (b :: back), by
        rw [String.intercalate_cons_cons, String.append_assoc]⟩
  obtain ⟨after, hafter⟩ := hback
  cases front with
  | nil => exact ⟨"", after, by simpa using hafter⟩
  | cons f front =>
    refine ⟨separator.intercalate (f :: front) ++ separator, after, ?_⟩
    rw [String.intercalate_append_of_ne_nil (by simp) (by simp), hafter]
    simp only [String.append_assoc]

namespace Declaration

open TypeGraph

/-- How declarations begin, up to the name. -/
def heads : List String :=
  ["export type ", "export class ", "export const enum ", "export enum "]

/-- **A declaration of a name stands in a text**: the head of a declaration, then the name. -/
def Introduces (text name : String) : Prop :=
  ∃ head ∈ heads, ∃ before after, text = before ++ head ++ name ++ " " ++ after

theorem Introduces.extend {text name : String} (h : Introduces text name)
    (before after : String) : Introduces (before ++ text ++ after) name := by
  obtain ⟨head, hhead, b, a, rfl⟩ := h
  exact ⟨head, hhead, before ++ b, a ++ after, by simp only [String.append_assoc]⟩

variable {g : TypeGraph} {o : Options} {rootName name : String} {id : TypeId}

/-- How the declaration of a type begins. -/
def headOf (g : TypeGraph) (o : Options) (id : TypeId) : String :=
  match g.kind id with
  | .record _ _ => "export class "
  | .enumeration _ => if o.constEnums then "export const enum " else "export enum "
  | _ => "export type "

/-- What stands before a declaration: the doc comment of the type, and the banner of classes. -/
def preamble (g : TypeGraph) (o : Options) (id : TypeId) : String :=
  match g.kind id, o.classBanner with
  | .record _ _, some banner => banner ++ "\n" ++ withComment g id ""
  | _, _ => withComment g id ""

/-- **A block is the declaration of a named type**: behind its preamble stand the head that its kind
asks for and its name. -/
def IsDeclaration (g : TypeGraph) (o : Options) (id : TypeId) (block : String) : Prop :=
  ∃ name body, g.name? id = some name ∧
    block = preamble g o id ++ headOf g o id ++ name ++ " " ++ body

theorem headOf_mem_heads : headOf g o id ∈ heads := by
  unfold headOf heads
  split
  · simp
  · split <;> simp
  · simp

theorem IsDeclaration.introduces {block : String} (h : IsDeclaration g o id block)
    (hname : g.name? id = some name) : Introduces block name := by
  obtain ⟨other, body, hother, rfl⟩ := h
  cases hname.symm.trans hother
  exact ⟨headOf g o id, headOf_mem_heads, preamble g o id, body, rfl⟩

/-- A comment only stands before. -/
theorem withComment_eq (g : TypeGraph) (id : TypeId) (body : String) :
    withComment g id body = withComment g id "" ++ body := by
  unfold withComment
  split
  · simp only [String.append_assoc, String.empty_append]
  · exact (String.empty_append).symm

/-- A declaration that has no banner. -/
theorem isDeclaration_withComment {head : String} (hname : g.name? id = some name)
    (hrecord : (g.kind id).isRecord = false) (hhead : headOf g o id = head) (body : String) :
    IsDeclaration g o id (withComment g id (head ++ name ++ " " ++ body)) := by
  have hpreamble : preamble g o id = withComment g id "" := by
    unfold preamble
    split
    · next hkind _ =>
      rw [hkind] at hrecord
      cases hrecord
    · rfl
  refine ⟨name, body, hname, ?_⟩
  rw [withComment_eq, hpreamble, hhead]
  simp only [String.append_assoc]

/-! ### Aliases -/

theorem alias?_of_name (hall : o.declareReferenced = true) (hname : g.name? id = some name)
    (hrecord : (g.kind id).isRecord = false) (henum : (g.kind id).isEnumeration = false)
    (texts : Texts) : After (alias? g o rootName id) texts fun block _ =>
      ∃ text, block = some text ∧ IsDeclaration g o id text := by
  unfold alias?
  rw [hname]
  simp only [hrecord, henum, isDeclared, hall, Bool.or_true, Bool.not_true, Bool.or_self]
  refine after_bind.2 (After.mono (Q := fun _ _ => True) trivial fun text _ _ => ?_)
  have hhead : headOf g o id = "export type " := by
    unfold headOf
    split
    · next hkind =>
      rw [hkind] at hrecord
      cases hrecord
    · next hkind =>
      rw [hkind] at henum
      cases henum
    · rfl
  have hblock := isDeclaration_withComment hname hrecord hhead ("= " ++ text ++ ";")
  refine after_pure.2 ⟨_, rfl, ?_⟩
  rw [show "export type " ++ name ++ " = " ++ text ++ ";" =
    "export type " ++ name ++ " " ++ ("= " ++ text ++ ";") by
      simp only [String.append_assoc]; rfl]
  exact hblock

theorem introduces_aliases (hall : o.declareReferenced = true) (hid : id ∈ g.reachable)
    (hname : g.name? id = some name) (hrecord : (g.kind id).isRecord = false)
    (henum : (g.kind id).isEnumeration = false) (texts : Texts) :
    After (aliases g o rootName) texts fun blocks _ => ∃ block ∈ blocks, Introduces block name := by
  have hfold : ∀ (ids : List TypeId) (texts : Texts), id ∈ ids →
      After (ids.mapM (alias? g o rootName)) texts fun blocks _ =>
        ∃ text, some text ∈ blocks ∧ Introduces text name := by
    intro ids
    induction ids with
    | nil => exact fun texts h => nomatch h
    | cons first rest ih =>
      intro texts hmem
      rw [List.mapM_cons, after_bind]
      rcases List.mem_cons.1 hmem with rfl | hmem
      · refine (alias?_of_name hall hname hrecord henum texts).mono fun block texts' hblock => ?_
        obtain ⟨text, rfl, htext⟩ := hblock
        exact ⟨text, List.mem_cons_self .., htext.introduces hname⟩
      · refine After.mono (Q := fun _ _ => True) trivial fun block texts' _ => ?_
        rw [after_bind]
        refine (ih texts' hmem).mono fun blocks _ ⟨text, htext, hintro⟩ => ?_
        exact ⟨text, List.mem_cons_of_mem _ htext, hintro⟩
  unfold aliases
  rw [after_bind]
  refine (hfold g.reachable texts hid).mono fun blocks _ ⟨text, htext, hintro⟩ => ?_
  exact ⟨text, List.mem_filterMap.2 ⟨some text, htext, rfl⟩, hintro⟩

/-! ### Classes -/

theorem isDeclaration_classBlock {members : List Member} {bases : List TypeId}
    (hname : g.name? id = some name) (hkind : g.kind id = .record members bases) (texts : Texts) :
    After (classBlock g o id name members bases) texts fun block _ => IsDeclaration g o id block := by
  unfold classBlock
  refine after_bind.2 (After.mono (Q := fun _ _ => True) trivial fun baseTexts _ _ => ?_)
  refine after_bind.2 (After.mono (Q := fun _ _ => True) trivial fun lines _ _ => ?_)
  refine after_pure.2 ?_
  -- the header is the first line of the body
  have hbody : ∃ body, "\n".intercalate
      (classHeader name baseTexts :: lines.flatten ++ ["\x7d"]) =
        "export class " ++ name ++ " " ++ body := by
    obtain ⟨line, more, heq⟩ := List.exists_cons_of_ne_nil
      (show lines.flatten ++ ["\x7d"] ≠ [] by simp)
    refine ⟨(if baseTexts.isEmpty then "" else "extends " ++ ", ".intercalate baseTexts ++ " ") ++
      "\x7b" ++ ("\n" ++ "\n".intercalate (line :: more)), ?_⟩
    rw [List.cons_append, heq, String.intercalate_cons_cons, classHeader]
    simp only [String.append_assoc]
  obtain ⟨body, hbody⟩ := hbody
  rw [List.cons_append, withComment_eq, ← List.cons_append, hbody]
  refine ⟨name, body, hname, ?_⟩
  rw [headOf, preamble, hkind]
  cases o.classBanner with
  | none => simp only [String.append_assoc]
  | some banner => simp only [String.append_assoc]

/-- A class is declared, unless its name was before. -/
theorem introduces_classesFrom (hall : o.declareReferenced = true) {members : List Member}
    {bases : List TypeId} (hname : g.name? id = some name)
    (hkind : g.kind id = .record members bases) (ids : List TypeId) (hid : id ∈ ids)
    (emitted : List String) (texts : Texts) :
    After (classesFrom g o rootName emitted ids) texts fun result _ =>
      name ∈ emitted ∨ ∃ block ∈ result.1, Introduces block name := by
  induction ids generalizing emitted texts with
  | nil => cases hid
  | cons first rest ih =>
    unfold classesFrom
    split
    · next other members' bases' hother hrecord =>
      simp only [isDeclared, hall, Bool.or_true, Bool.not_true, Bool.false_or]
      by_cases hfirst : first = id
      · subst hfirst
        rw [hname] at hother
        cases hother
        split
        · next hemitted => exact Or.inl (by simpa using hemitted)
        · refine after_bind.2 ((isDeclaration_classBlock hname hrecord texts).mono
            fun block texts' hblock => ?_)
          refine after_bind.2 (After.mono (Q := fun _ _ => True) trivial fun result _ _ => ?_)
          exact Or.inr ⟨block, List.mem_cons_self .., hblock.introduces hname⟩
      · have hrest : id ∈ rest := (List.mem_cons.1 hid).resolve_left fun h => hfirst h.symm
        split
        · exact ih hrest emitted texts
        · refine after_bind.2 ((isDeclaration_classBlock hother hrecord texts).mono
            fun block texts' hblock => ?_)
          refine after_bind.2 ((ih hrest (other :: emitted) texts').mono
            fun result texts'' hresult => ?_)
          rcases hresult with hemitted | ⟨later, hlater, hintro⟩
          · rcases List.mem_cons.1 hemitted with rfl | hemitted
            · exact Or.inr ⟨block, List.mem_cons_self .., hblock.introduces hother⟩
            · exact Or.inl hemitted
          · exact Or.inr ⟨later, List.mem_cons_of_mem _ hlater, hintro⟩
    · next hnot =>
      refine ih ((List.mem_cons.1 hid).resolve_left fun h => ?_) emitted texts
      subst h
      exact hnot name members bases hname hkind

/-! ### Enumerations -/

theorem isDeclaration_enum? {entries : List EnumEntry} (hname : g.name? id = some name)
    (hkind : g.kind id = .enumeration entries) :
    ∃ block, enum? g o id = some block ∧ IsDeclaration g o id block := by
  have hrecord : (g.kind id).isRecord = false := by rw [hkind]; rfl
  have hhead : headOf g o id =
      if o.constEnums then "export const enum " else "export enum " := by rw [headOf, hkind]
  have hblock := isDeclaration_withComment hname hrecord hhead
    ("\x7b\n" ++ ",\n".intercalate (entries.map enumEntry) ++ "\n\x7d")
  unfold enum?
  rw [hname, hkind]
  refine ⟨_, rfl, ?_⟩
  simpa only [String.append_assoc, show " \x7b\n" = " " ++ "\x7b\n" from rfl] using hblock

/-! ### The whole text -/

/-- What holds of the aliases, the classes and the enumerations together holds of the blocks. -/
theorem blocks_of_after {P : List String → Prop} (rootName : String)
    (h : After (aliases g o rootName) ([] : Texts) fun aliases texts =>
      After (classes g o rootName []) texts fun result _ => P (aliases ++ result.1 ++ enums g o)) :
    P (blocks g o rootName) := h

/-- Every type that is reached and has a name has a block. -/
theorem introduces_blocks (rootName : String) (hall : o.declareReferenced = true)
    (hid : g.Reached id) (hname : g.name? id = some name) :
    ∃ block ∈ blocks g o rootName, Introduces block name := by
  have hmem : id ∈ g.reachable := (mem_reachable_iff g id).2 hid
  refine blocks_of_after (P := fun list => ∃ block ∈ list, Introduces block name) rootName ?_
  by_cases henum : (g.kind id).isEnumeration = true
  · refine After.mono (Q := fun _ _ => True) trivial fun aliases _ _ => ?_
    refine After.mono (Q := fun _ _ => True) trivial fun classes _ _ => ?_
    cases hkind : g.kind id with
    | enumeration entries =>
      obtain ⟨block, hblock, hdeclares⟩ := isDeclaration_enum? (o := o) hname hkind
      refine ⟨block, List.mem_append_right _ ?_, hdeclares.introduces hname⟩
      exact List.mem_filterMap.2 ⟨id, hmem, hblock⟩
    | _ => rw [hkind] at henum; cases henum
  · by_cases hrecord : (g.kind id).isRecord = true
    · refine After.mono (Q := fun _ _ => True) trivial fun aliases texts _ => ?_
      cases hkind : g.kind id with
      | record members bases =>
        refine (introduces_classesFrom hall hname hkind g.reachable hmem [] texts).mono
          fun result _ hresult => ?_
        rcases hresult with hresult | ⟨block, hblock, hintro⟩
        · cases hresult
        · exact ⟨block, List.mem_append_left _ (List.mem_append_right _ hblock), hintro⟩
      | _ => rw [hkind] at hrecord; cases hrecord
    · refine (introduces_aliases hall hmem hname (by simpa using hrecord)
        (by simpa using henum) []).mono fun aliases _ halias => ?_
      obtain ⟨block, hblock, hintro⟩ := halias
      refine After.mono (Q := fun _ _ => True) trivial fun classes _ _ => ?_
      exact ⟨block, List.mem_append_left _ (List.mem_append_left _ hblock), hintro⟩

/-- **Every name of a type that is reached is declared in the text.** -/
theorem introduces_generate (rootName : String) (hall : o.declareReferenced = true)
    (hid : g.Reached id) (hname : g.name? id = some name) :
    Introduces (generate g o rootName) name := by
  obtain ⟨block, hblock, hintro⟩ := introduces_blocks rootName hall hid hname
  have hbanner : Introduces (withBanner o block) name := by
    unfold withBanner
    split
    · next banner _ => simpa using hintro.extend (banner ++ "\n") ""
    · exact hintro
  unfold generate
  split
  · next hnil =>
    rw [hnil] at hblock
    cases hblock
  · obtain ⟨before, after, heq⟩ := exists_intercalate_eq "\n\n"
      (List.mem_map.2 ⟨block, hblock, rfl⟩)
    rw [heq]
    simpa only [String.append_assoc] using hbanner.extend before (after ++ "\n")

end Declaration
end SchemaTypings
