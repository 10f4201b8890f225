import LoxLex.NodeModule.Spec
import LoxLex.Proofs.Templates

/-!
# LoxLex.Proofs.Outlines — what the text of a module declares

An `Outline` is what the module for a set of nodes declares: the base, the abstract methods of the
visitor, and the class of each node with the method that it calls.  `Outline.text` is its Python text, and
`Outline.read` takes a text apart into an outline again.  The reader looks at every line; nothing is
skipped.

* `Outline.read_eq_some_iff`: an outline is read from its text and from no other.
-/

namespace LoxLex

open Unicode

/-- A field as a class annotates it. -/
structure Annotated where
  field : Field
  quoted : Bool
deriving DecidableEq

/-- The class of a node, with the method that its `accept` calls. -/
structure ClassOutline where
  name : String
  fields : List Annotated
  calls : String
deriving DecidableEq

/-- An abstract method of the visitor, with the class that its parameter is annotated with. -/
structure MethodOutline where
  name : String
  parameter : String
  node : String
deriving DecidableEq

/-- What a module declares. -/
structure Outline where
  base : String
  methods : List MethodOutline
  classes : List ClassOutline
deriving DecidableEq

/-- The node that a class is for. -/
def ClassOutline.spec (c : ClassOutline) : NodeSpec := ⟨c.name, c.fields.map Annotated.field⟩

/-! ### Lines with names -/

namespace Template

def moduleDoc : Template where
  start := "\"\"\""
  behind := [" syntax tree nodes. Generated by generate_ast.py, do not edit.\"\"\""]

def signature : Template where
  start := "    def "
  behind := ["(self, ", ": '", "') -> Any:"]

def nodeClass : Template where
  start := "class "
  behind := ["(", "):"]

def plainField : Template where
  start := "    "
  behind := [": ", ""]

def quotedField : Template where
  start := "    "
  behind := [": '", "'"]

def call : Template where
  start := "        return visitor."
  behind := ["(self)"]

/-- A type in quotes is not a name. -/
theorem plainField_read_quotedField (name typeName : String) :
    plainField.read (quotedField.fill [name, typeName]) = none := by
  rw [Option.eq_none_iff_forall_ne_some]
  intro other hread
  obtain ⟨hline, -, hother⟩ := read_exact hread
  have hfree : '\'' ∉ (plainField.fill other).toList :=
    notMem_fill (by decide) (by decide) (by decide) hother
  rw [← hline] at hfree
  exact hfree (by simp [quotedField, fill])

end Template

/-! ### The text of an outline -/

def Annotated.line (a : Annotated) : String :=
  if a.quoted then Template.quotedField.fill [a.field.name, a.field.typeName]
  else Template.plainField.fill [a.field.name, a.field.typeName]

def MethodOutline.paragraph (m : MethodOutline) : Paragraph :=
  ["    @abstractmethod", Template.signature.fill [m.name, m.parameter, m.node], "        pass"]

/-- The line that opens `accept`. -/
def acceptLine (base : String) : String :=
  "    def accept(self, visitor: " ++ base ++ "Visitor) -> Any:"

def ClassOutline.block (base : String) (c : ClassOutline) : Block :=
  ["@dataclass(frozen=True)" :: Template.nodeClass.fill [c.name, base] :: c.fields.map Annotated.line,
    [acceptLine base, Template.call.fill [c.calls]]]

namespace Outline

/-- What stands above the classes, below the line that says what the module is. -/
def imports : List Paragraph :=
  [["from abc import ABC, abstractmethod", "from dataclasses import dataclass",
      "from typing import Any"],
    ["from pylox.lexer.tokens import Token"]]

def visitorOpening (base : String) : Paragraph :=
  ["class " ++ base ++ "Visitor(ABC):",
    "    \"\"\"Visitor interface, one method per " ++ base ++ " node type.\"\"\""]

def baseBlock (base : String) : Block :=
  [["class " ++ base ++ "(ABC):", "    \"\"\"Base class for all " ++ base ++ " nodes.\"\"\""],
    ["    @abstractmethod", acceptLine base, "        pass"]]

def blocks (o : Outline) : List Block :=
  ([Template.moduleDoc.fill [o.base]] :: imports) ::
    (visitorOpening o.base :: o.methods.map MethodOutline.paragraph) ::
    baseBlock o.base :: o.classes.map (ClassOutline.block o.base)

/-- The text of the module, with a newline at its end. -/
def text (o : Outline) : String := Blocks.text (o.blocks ++ [[]])

end Outline

/-! ### Reading -/

def Annotated.read (line : String) : Option Annotated :=
  match Template.plainField.read line with
  | some [name, typeName] => some ⟨⟨typeName, name⟩, false⟩
  | _ =>
    match Template.quotedField.read line with
    | some [name, typeName] => some ⟨⟨typeName, name⟩, true⟩
    | _ => none

def MethodOutline.read : Paragraph → Option MethodOutline
  | [mark, signature, body] =>
    if mark = "    @abstractmethod" ∧ body = "        pass" then
      match Template.signature.read signature with
      | some [name, parameter, node] => some ⟨name, parameter, node⟩
      | _ => none
    else none
  | _ => none

def ClassOutline.read (base : String) : Block → Option ClassOutline
  | [mark :: opening :: fields, [accept, call]] =>
    if mark = "@dataclass(frozen=True)" ∧ accept = acceptLine base then
      match Template.nodeClass.read opening, fields.mapM Annotated.read, Template.call.read call with
      | some [name, parent], some fields, some [calls] =>
        if parent = base then some ⟨name, fields, calls⟩ else none
      | _, _, _ => none
    else none
  | _ => none

namespace Outline

def readBlocks : List Block → Option Outline
  | ([doc] :: header) :: (opening :: methods) :: middle :: classes =>
    match Template.moduleDoc.read doc with
    | some [base] =>
      if header = imports ∧ opening = visitorOpening base ∧ middle = baseBlock base ∧
          classes.getLast? = some [] then
        match methods.mapM MethodOutline.read, classes.dropLast.mapM (ClassOutline.read base) with
        | some methods, some classes => some ⟨base, methods, classes⟩
        | _, _ => none
      else none
    | _ => none
  | _ => none

/-- **What a text declares**, if it is the text of an outline. -/
def read (s : String) : Option Outline := readBlocks (Blocks.read s)

end Outline

/-! ### The names in an outline -/

def Annotated.Named (a : Annotated) : Prop := NameText a.field.name ∧ NameText a.field.typeName

def MethodOutline.Named (m : MethodOutline) : Prop :=
  NameText m.name ∧ NameText m.parameter ∧ NameText m.node

def ClassOutline.Named (c : ClassOutline) : Prop :=
  NameText c.name ∧ NameText c.calls ∧ ∀ a ∈ c.fields, a.Named

/-- All names are made of the characters of names. -/
def Outline.Named (o : Outline) : Prop :=
  NameText o.base ∧ (∀ m ∈ o.methods, m.Named) ∧ ∀ c ∈ o.classes, c.Named

/-! ### Each part is read from its text -/

/-- A list of parts is read if each part is. -/
theorem mapM_eq_some_iff {α β : Type} {f : α → Option β} {g : β → α} {P : β → Prop}
    (h : ∀ x y, f x = some y ↔ x = g y ∧ P y) {xs : List α} {ys : List β} :
    xs.mapM f = some ys ↔ xs = ys.map g ∧ ∀ y ∈ ys, P y := by
  induction xs generalizing ys with
  | nil =>
    rw [List.mapM_nil]
    constructor
    · intro hys
      obtain rfl := Option.some.inj hys
      simp
    · rintro ⟨hys, -⟩
      obtain rfl := List.map_eq_nil_iff.mp hys.symm
      rfl
  | cons x xs ih =>
    rw [List.mapM_cons]
    constructor
    · intro hys
      obtain ⟨y, hy, hys⟩ := Option.bind_eq_some_iff.mp hys
      obtain ⟨zs, hzs, hys⟩ := Option.bind_eq_some_iff.mp hys
      obtain rfl := Option.some.inj hys
      obtain ⟨rfl, hP⟩ := (h x y).mp hy
      obtain ⟨rfl, hPs⟩ := ih.mp hzs
      exact ⟨rfl, List.forall_mem_cons.mpr ⟨hP, hPs⟩⟩
    · rintro ⟨hys, hP⟩
      obtain ⟨y, zs, rfl, hx, hxs⟩ := List.map_eq_cons_iff.mp hys.symm
      obtain ⟨hPy, hPs⟩ := List.forall_mem_cons.mp hP
      rw [(h x y).mpr ⟨hx.symm, hPy⟩, ih.mpr ⟨hxs.symm, hPs⟩]
      rfl

theorem Annotated.read_eq_some_iff (line : String) (a : Annotated) :
    Annotated.read line = some a ↔ line = a.line ∧ a.Named := by
  constructor
  · intro h
    unfold Annotated.read at h
    split at h
    · next name typeName hread =>
      obtain ⟨rfl, -, hnames⟩ := Template.read_exact hread
      obtain rfl := Option.some.inj h
      exact ⟨rfl, by simpa [Annotated.Named] using hnames⟩
    · split at h
      · next name typeName hread =>
        obtain ⟨rfl, -, hnames⟩ := Template.read_exact hread
        obtain rfl := Option.some.inj h
        exact ⟨rfl, by simpa [Annotated.Named] using hnames⟩
      · cases h
  · rintro ⟨rfl, hname, htype⟩
    obtain ⟨⟨typeName, name⟩, quoted⟩ := a
    have hnames : ∀ n ∈ [name, typeName], NameText n := by simpa using ⟨hname, htype⟩
    cases quoted with
    | false =>
      have hread := Template.plainField.read_fill hnames rfl
      simp [Annotated.read, Annotated.line, hread]
    | true =>
      have hplain := Template.plainField_read_quotedField name typeName
      have hread := Template.quotedField.read_fill hnames rfl
      simp [Annotated.read, Annotated.line, hplain, hread]

theorem MethodOutline.read_eq_some_iff (p : Paragraph) (m : MethodOutline) :
    MethodOutline.read p = some m ↔ p = m.paragraph ∧ m.Named := by
  constructor
  · intro h
    unfold MethodOutline.read at h
    split at h
    · next mark signature body =>
      split at h
      · next hfixed =>
        obtain ⟨rfl, rfl⟩ := hfixed
        split at h
        · next name parameter node hread =>
          obtain ⟨rfl, -, hnames⟩ := Template.read_exact hread
          obtain rfl := Option.some.inj h
          exact ⟨rfl, by simpa [MethodOutline.Named] using hnames⟩
        · cases h
      · cases h
    · cases h
  · rintro ⟨rfl, hname, hparameter, hnode⟩
    have hnames : ∀ n ∈ [m.name, m.parameter, m.node], NameText n := by
      simpa using ⟨hname, hparameter, hnode⟩
    have hread := Template.signature.read_fill hnames rfl
    simp [MethodOutline.read, MethodOutline.paragraph, hread]

theorem ClassOutline.read_eq_some_iff {base : String} (hbase : NameText base) (b : Block)
    (c : ClassOutline) : ClassOutline.read base b = some c ↔ b = c.block base ∧ c.Named := by
  constructor
  · intro h
    unfold ClassOutline.read at h
    split at h
    · next mark opening fields accept call =>
      split at h
      · next hfixed =>
        obtain ⟨rfl, rfl⟩ := hfixed
        split at h
        · next name parent fields calls hopening hfields hcall =>
          split at h
          · next hparent =>
            subst hparent
            obtain ⟨rfl, -, hname⟩ := Template.read_exact hopening
            obtain ⟨rfl, -, hcalls⟩ := Template.read_exact hcall
            obtain ⟨rfl, hannotated⟩ := (mapM_eq_some_iff Annotated.read_eq_some_iff).mp hfields
            obtain rfl := Option.some.inj h
            exact ⟨rfl, hname _ List.mem_cons_self, hcalls _ List.mem_cons_self, hannotated⟩
          · cases h
        · cases h
      · cases h
    · cases h
  · rintro ⟨rfl, hname, hcalls, hfields⟩
    have hnames : ∀ n ∈ [c.name, base], NameText n := by simpa using ⟨hname, hbase⟩
    have hopening := Template.nodeClass.read_fill hnames rfl
    have hcall := Template.call.read_fill (List.forall_mem_singleton.mpr hcalls) rfl
    have hannotated := (mapM_eq_some_iff Annotated.read_eq_some_iff).mpr ⟨rfl, hfields⟩
    simp [ClassOutline.read, ClassOutline.block, hopening, hcall, hannotated]

namespace Outline

theorem readBlocks_eq_some_iff (bs : List Block) (o : Outline) :
    readBlocks bs = some o ↔ bs = o.blocks ++ [[]] ∧ o.Named := by
  constructor
  · intro h
    unfold readBlocks at h
    split at h
    · next doc header opening methods middle classes =>
      split at h
      · next base hdoc =>
        split at h
        · next hfixed =>
          obtain ⟨rfl, rfl, rfl, hlast⟩ := hfixed
          split at h
          · next ms cs hmethods hclasses =>
            obtain ⟨rfl, -, hnames⟩ := Template.read_exact hdoc
            have hbase : NameText base := hnames base List.mem_cons_self
            obtain ⟨rfl, hms⟩ := (mapM_eq_some_iff MethodOutline.read_eq_some_iff).mp hmethods
            obtain ⟨hbodies, hcs⟩ :=
              (mapM_eq_some_iff (ClassOutline.read_eq_some_iff hbase)).mp hclasses
            obtain rfl := Option.some.inj h
            refine ⟨?_, hbase, hms, hcs⟩
            simp only [blocks, List.cons_append, ← hbodies, List.dropLast_append_getLast? _ hlast]
          · cases h
        · cases h
      · cases h
    · cases h
  · rintro ⟨rfl, hbase, hmethods, hclasses⟩
    have hdoc := Template.moduleDoc.read_fill (List.forall_mem_singleton.mpr hbase) rfl
    have hms := (mapM_eq_some_iff MethodOutline.read_eq_some_iff).mpr ⟨rfl, hmethods⟩
    have hcs := (mapM_eq_some_iff (ClassOutline.read_eq_some_iff hbase)).mpr ⟨rfl, hclasses⟩
    rw [blocks, List.cons_append, List.cons_append, List.cons_append, readBlocks, hdoc]
    dsimp only
    rw [if_pos ⟨rfl, rfl, rfl, List.getLast?_concat⟩, List.dropLast_concat, hms, hcs]

/-! ### Outlines with names have solid blocks -/

section Base

variable {base : String}

/-- A line with the base in it. -/
theorem solid_around (h : NameText base) {before after : String} (hbefore : SolidLine before)
    (hafter : '\n' ∉ after.toList) : SolidLine (before ++ base ++ after) :=
  (hbefore.append (h.notMem (by decide))).append hafter

theorem solid_acceptLine (h : NameText base) : SolidLine (acceptLine base) :=
  solid_around h (by decide) (by decide)

theorem solid_header (h : NameText base) :
    Block.Solid ([Template.moduleDoc.fill [base]] :: imports) := by
  have hdoc : SolidLine (Template.moduleDoc.fill [base]) :=
    Template.solid_fill (List.forall_mem_singleton.mpr h)
  have himports : ∀ p ∈ imports, p ≠ [] ∧ ∀ line ∈ p, SolidLine line := by decide
  refine ⟨by simp, List.forall_mem_cons.mpr ⟨⟨by simp, ?_⟩, himports⟩⟩
  exact List.forall_mem_singleton.mpr hdoc

theorem solid_visitorOpening (h : NameText base) : Paragraph.Solid (visitorOpening base) := by
  refine ⟨by simp [visitorOpening], ?_⟩
  simp only [visitorOpening, List.forall_mem_cons, List.not_mem_nil, false_implies, implies_true,
    and_true]
  exact ⟨solid_around h (by decide) (by decide), solid_around h (by decide) (by decide)⟩

theorem solid_baseBlock (h : NameText base) : Block.Solid (baseBlock base) := by
  refine ⟨by simp [baseBlock], ?_⟩
  simp only [baseBlock, Paragraph.Solid, List.forall_mem_cons, List.not_mem_nil, false_implies,
    implies_true, and_true]
  refine ⟨⟨by simp, ?_, ?_⟩, by simp, by decide, solid_acceptLine h, by decide⟩
  · exact solid_around h (by decide) (by decide)
  · exact solid_around h (by decide) (by decide)

end Base

end Outline

theorem Annotated.Named.solid {a : Annotated} (h : a.Named) : SolidLine a.line := by
  have hnames : ∀ n ∈ [a.field.name, a.field.typeName], NameText n := by
    simpa using (show _ ∧ _ from h)
  unfold Annotated.line
  split
  · exact Template.solid_fill hnames
  · exact Template.solid_fill hnames

theorem MethodOutline.Named.solid {m : MethodOutline} (h : m.Named) :
    Paragraph.Solid m.paragraph := by
  have hnames : ∀ n ∈ [m.name, m.parameter, m.node], NameText n := by
    simpa using (show _ ∧ _ ∧ _ from h)
  refine ⟨by simp [paragraph], ?_⟩
  simp only [paragraph, List.forall_mem_cons, List.not_mem_nil, false_implies, implies_true, and_true]
  exact ⟨by decide, Template.solid_fill hnames, by decide⟩

theorem ClassOutline.Named.solid {base : String} (hbase : NameText base) {c : ClassOutline}
    (h : c.Named) : (c.block base).Solid := by
  obtain ⟨hname, hcalls, hfields⟩ := h
  have haccept := Outline.solid_acceptLine hbase
  have hnames : ∀ n ∈ [c.name, base], NameText n := by simpa using ⟨hname, hbase⟩
  have hopening : SolidLine (Template.nodeClass.fill [c.name, base]) := Template.solid_fill hnames
  have hcall : SolidLine (Template.call.fill [c.calls]) :=
    Template.solid_fill (List.forall_mem_singleton.mpr hcalls)
  refine ⟨by simp [block], ?_⟩
  simp only [block, Paragraph.Solid, List.forall_mem_cons, List.forall_mem_map, List.not_mem_nil,
    false_implies, implies_true, and_true]
  exact ⟨⟨by simp, by decide, hopening, fun a ha => (hfields a ha).solid⟩, by simp, haccept, hcall⟩

namespace Outline

theorem solid_blocks {o : Outline} (h : o.Named) : ∀ b ∈ o.blocks, b.Solid := by
  obtain ⟨hbase, hmethods, hclasses⟩ := h
  simp only [blocks, List.forall_mem_cons, List.forall_mem_map]
  refine ⟨solid_header hbase, ⟨by simp, ?_⟩, solid_baseBlock hbase, ?_⟩
  · simp only [List.forall_mem_cons, List.forall_mem_map]
    exact ⟨solid_visitorOpening hbase, fun m hm => (hmethods m hm).solid⟩
  · intro c hc
    exact (hclasses c hc).solid hbase

/-- **An outline is read from its text and from no other.** -/
theorem read_eq_some_iff {s : String} {o : Outline} : read s = some o ↔ s = o.text ∧ o.Named := by
  unfold read
  rw [readBlocks_eq_some_iff]
  constructor
  · rintro ⟨hs, h⟩
    refine ⟨?_, h⟩
    rw [text, ← hs, Blocks.text_read]
  · rintro ⟨rfl, h⟩
    exact ⟨Blocks.read_text (by simp [blocks]) (solid_blocks h), h⟩

end Outline

end LoxLex
