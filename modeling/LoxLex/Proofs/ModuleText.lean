import LoxLex.NodeModule.Render
import LoxLex.Proofs.NodeDescriptions
import LoxLex.Proofs.Outlines

/-!
# LoxLex.Proofs.ModuleText — the module for a set of nodes

The renderer is a family of templates that have to stay in step: the visitor declares the methods that
the nodes call, and the base is written into every class.  Here its text is shown to be the text of one
outline, `NodeModule.outline`, that has all of this in it; so reading the text gives back the base and
the nodes.

* `NodeModule.render_eq`: what is rendered is the text of the outline.
* `NodeModule.ofSpecs_reads`: the text for described nodes, and what is read from it.
-/

namespace LoxLex

open Unicode

/-! ### Names -/

/-- All names are made of the characters of names. -/
def NodeSpec.Named (node : NodeSpec) : Prop :=
  NameText node.name ∧ ∀ f ∈ node.fields, NameText f.name ∧ NameText f.typeName

theorem nameText_of_isIdentifier {w : List Char} (h : isIdentifier w = true) :
    NameText (String.ofList w) := by
  intro c hc
  rw [String.toList_ofList] at hc
  exact isNameChar_of_isIdentifier h c hc

theorem NodeSpec.Describes.named {cs : List Char} {node : NodeSpec}
    (h : NodeSpec.Describes cs node) : node.Named := by
  obtain ⟨-, hname, -, -, hfields⟩ := h
  refine ⟨nameText_of_isIdentifier hname, ?_⟩
  induction hfields with
  | nil => simp
  | cons hf _ ih =>
    obtain ⟨-, htype, -, -, hfield, -⟩ := hf
    exact List.forall_mem_cons.mpr
      ⟨⟨nameText_of_isIdentifier hfield, nameText_of_isIdentifier htype⟩, ih⟩

theorem NameText.append {s t : String} (hs : NameText s) (ht : NameText t) : NameText (s ++ t) := by
  intro c hc
  rw [String.toList_append] at hc
  rcases List.mem_append.mp hc with hc | hc
  · exact hs c hc
  · exact ht c hc

namespace NodeModule

theorem nameText_methodName {node base : String} (hnode : NameText node) (hbase : NameText base) :
    NameText (methodName node base) := by
  have hvisit : NameText "visit_" := List.all_eq_true.mp (by decide)
  have hbetween : NameText "_" := List.all_eq_true.mp (by decide)
  exact ((hvisit.append (isNameChar_lower hnode)).append hbetween).append (isNameChar_lower hbase)

/-! ### The outline of a module -/

def annotated (base : String) (f : Field) : Annotated := ⟨f, f.typeName = base⟩

def methodOutline (base : String) (node : NodeSpec) : MethodOutline :=
  ⟨methodName node.name base, lower base, node.name⟩

def classOutline (base : String) (node : NodeSpec) : ClassOutline :=
  ⟨node.name, node.fields.map (annotated base), methodName node.name base⟩

/-- What the module for a set of nodes declares. -/
def outline (base : String) (nodes : List NodeSpec) : Outline :=
  ⟨base, nodes.map (methodOutline base), nodes.map (classOutline base)⟩

theorem named_outline {base : String} (hbase : NameText base) {nodes : List NodeSpec}
    (h : ∀ node ∈ nodes, node.Named) : (outline base nodes).Named := by
  refine ⟨hbase, ?_, ?_⟩
  · rw [outline, List.forall_mem_map]
    intro node hnode
    have hname := (h node hnode).1
    exact ⟨nameText_methodName hname hbase, isNameChar_lower hbase, hname⟩
  · rw [outline, List.forall_mem_map]
    intro node hnode
    obtain ⟨hname, hfields⟩ := h node hnode
    exact ⟨hname, nameText_methodName hname hbase, List.forall_mem_map.mpr hfields⟩

/-! ### The text is that of the outline -/

open Blocks

theorem header_eq (base : String) :
    header base = written ([Template.moduleDoc.fill [base]] :: Outline.imports) := by
  unfold Outline.imports
  simp only [header, codeLine, docText, written_cons, written_nil, writtenParagraph_cons,
    writtenParagraph_nil, Template.moduleDoc, Template.fill, List.zipWith_cons_cons,
    List.zipWith_nil_left, String.join_cons, String.join_nil, String.append_assoc]
  -- What is left differs in where the fixed texts are cut.
  rfl

theorem baseClass_eq (base : String) : baseClass base = written (Outline.baseBlock base) := by
  unfold Outline.baseBlock acceptLine
  simp only [baseClass, codeLine, docText, written_cons, written_nil, writtenParagraph_cons,
    writtenParagraph_nil, String.append_assoc]
  rfl

/-- The blank line stands before the method in the one text and behind it in the other. -/
theorem visitorMethod_append (base : String) (node : NodeSpec) :
    visitorMethod base node.name ++ "\n" =
      "\n" ++ writtenParagraph (methodOutline base node).paragraph := by
  unfold MethodOutline.paragraph methodOutline
  simp only [visitorMethod, codeLine, writtenParagraph_cons, writtenParagraph_nil,
    Template.signature, Template.fill, List.zipWith_cons_cons, List.zipWith_nil_left,
    String.join_cons, String.join_nil, String.append_assoc]
  rfl

theorem visitorMethods_append (base : String) (nodes : List NodeSpec) :
    String.join (nodes.map fun node => visitorMethod base node.name) ++ "\n" =
      "\n" ++ String.join
        (((outline base nodes).methods.map MethodOutline.paragraph).map writtenParagraph) := by
  unfold outline
  induction nodes with
  | nil => rfl
  | cons node nodes ih =>
    simp only [List.map_cons, String.join_cons] at ih ⊢
    rw [String.append_assoc, ih, ← String.append_assoc, visitorMethod_append, String.append_assoc]

theorem visitorClass_eq (base : String) (nodes : List NodeSpec) :
    visitorClass base nodes = written
      (Outline.visitorOpening base :: (outline base nodes).methods.map MethodOutline.paragraph) := by
  have hopening : codeLine 0 ("class " ++ base ++ "Visitor(ABC):") ++
      codeLine 1 (docText ("Visitor interface, one method per " ++ base ++ " node type.")) ++ "\n" =
        writtenParagraph (Outline.visitorOpening base) := by
    unfold Outline.visitorOpening
    simp only [codeLine, docText, writtenParagraph_cons, writtenParagraph_nil, String.append_assoc]
    rfl
  have hblank : "\n\n" = "\n" ++ "\n" := rfl
  have hmethods := congrArg (· ++ "\n") (visitorMethods_append base nodes)
  rw [written_cons, ← hopening, written, visitorClass, hblank]
  simp only [String.append_assoc] at hmethods ⊢
  rw [hmethods]

theorem codeLine_field (base : String) (f : Field) :
    codeLine 1 (f.name ++ ": " ++ annotation f.typeName base) =
      (annotated base f).line ++ "\n" := by
  unfold annotation annotated Annotated.line
  by_cases h : f.typeName = base
  · simp only [codeLine, Template.quotedField, Template.fill, h, if_true, decide_true,
      List.zipWith_cons_cons, List.zipWith_nil_left, String.join_cons, String.join_nil,
      String.append_assoc]
    rfl
  · simp only [codeLine, Template.plainField, Template.fill, h, if_false, decide_false,
      Bool.false_eq_true, List.zipWith_cons_cons, List.zipWith_nil_left, String.join_cons,
      String.join_nil, String.append_assoc]
    rfl

theorem nodeClass_eq (base : String) (node : NodeSpec) :
    nodeClass base node = written ((classOutline base node).block base) := by
  have hfields : String.join (node.fields.map fun field =>
        codeLine 1 (field.name ++ ": " ++ annotation field.typeName base)) ++ "\n" =
      writtenParagraph ((node.fields.map (annotated base)).map Annotated.line) := by
    simp only [writtenParagraph, List.map_map, codeLine_field, Function.comp_def]
  unfold ClassOutline.block acceptLine classOutline
  rw [written_cons, writtenParagraph_cons, writtenParagraph_cons, ← hfields, nodeClass]
  simp only [codeLine, written_cons, written_nil, writtenParagraph_cons, writtenParagraph_nil,
    Template.nodeClass, Template.call, Template.fill, List.zipWith_cons_cons,
    List.zipWith_nil_left, String.join_cons, String.join_nil, String.append_assoc]
  rfl

theorem render_eq {base : String} (hbase : NameText base) {nodes : List NodeSpec}
    (h : ∀ node ∈ nodes, node.Named) : render base nodes = (outline base nodes).text := by
  have hsolid := Outline.solid_blocks (named_outline hbase h)
  rw [Outline.text, ← endInNewline_written (by simp [Outline.blocks]) hsolid, render]
  have hclasses : (outline base nodes).classes.map (written ∘ ClassOutline.block base) =
      nodes.map (nodeClass base) := by
    rw [outline, List.map_map]
    refine List.map_congr_left fun node _ => ?_
    exact (nodeClass_eq base node).symm
  rw [header_eq, visitorClass_eq, baseClass_eq, Outline.blocks, ← hclasses]
  simp only [List.map_cons, List.map_map, String.join_cons, String.append_assoc]
  rfl

/-! ### What the text says -/

/-- The names of described nodes are made of the characters of names. -/
theorem named_of_parse {specs : List String} {nodes : List NodeSpec}
    (h : List.Forall₂ (fun spec node => NodeSpec.parse spec = .ok node) specs nodes) :
    ∀ node ∈ nodes, node.Named := by
  induction h with
  | nil => simp
  | cons hspec _ ih =>
    exact List.forall_mem_cons.mpr ⟨(NodeSpec.parse_eq_ok_iff.mp hspec).named, ih⟩

/-- The text for described nodes is that of their outline, which is read from it. -/
theorem ofSpecs_eq {base : String} {specs : List String} {nodes : List NodeSpec}
    (hbase : isIdentifier base.toList = true)
    (hspecs : List.Forall₂ (fun spec node => NodeSpec.parse spec = .ok node) specs nodes) :
    ofSpecs base specs = .ok (outline base nodes).text ∧
      Outline.read (outline base nodes).text = some (outline base nodes) := by
  have hname : NameText base := isNameChar_of_isIdentifier hbase
  have hnodes := named_of_parse hspecs
  refine ⟨?_, Outline.read_eq_some_iff.mpr ⟨rfl, named_outline hname hnodes⟩⟩
  rw [ofSpecs, mapM_eq_ok_iff.mpr hspecs, ← render_eq hname hnodes]
  rfl

/-- What has to be in the outline of a module for nodes. -/
structure Declares (o : Outline) (base : String) (nodes : List NodeSpec) : Prop where
  base_eq : o.base = base
  /-- The classes are those of the nodes, with their fields in order. -/
  classes : o.classes.map ClassOutline.spec = nodes
  /-- The base is the type that is written in quotes. -/
  quoted : ∀ c ∈ o.classes, ∀ a ∈ c.fields, a.quoted = true ↔ a.field.typeName = base
  /-- The visitor has one method for each node, annotated with its class. -/
  methods : o.methods.map MethodOutline.node = nodes.map NodeSpec.name
  /-- Each class calls the method of its node. -/
  calls : o.classes.map ClassOutline.calls = o.methods.map MethodOutline.name

theorem declares_outline (base : String) (nodes : List NodeSpec) :
    Declares (outline base nodes) base nodes where
  base_eq := rfl
  classes := by
    have hspec : ∀ node, (classOutline base node).spec = node := by
      intro node
      simp [classOutline, annotated, ClassOutline.spec, Function.comp_def]
    simp only [outline, List.map_map, Function.comp_def, hspec, List.map_id']
  quoted := by
    intro c hc a ha
    obtain ⟨node, -, rfl⟩ := List.mem_map.mp hc
    obtain ⟨f, -, rfl⟩ := List.mem_map.mp ha
    exact decide_eq_true_iff
  methods := by
    rw [outline, List.map_map]
    rfl
  calls := by
    rw [outline, List.map_map, List.map_map]
    rfl

/-- **The text of a module determines what was described**: the reader finds the outline of its base and
nodes in it, and in no other text.  The first description that is wrong refuses the module. -/
theorem ofSpecs_reads (base : String) (specs : List String) :
    (∀ nodes, isIdentifier base.toList = true →
      List.Forall₂ (fun spec node => NodeSpec.parse spec = .ok node) specs nodes →
      ∃ text o, ofSpecs base specs = .ok text ∧ Declares o base nodes ∧
        (∀ s, Outline.read s = some o ↔ s = text) ∧
        ∃ body, text.toList = body ++ ['\n'] ∧ body.getLast? ≠ some '\n') ∧
    ∀ before spec after e, specs = before ++ spec :: after →
      (∀ other ∈ before, ∃ node, NodeSpec.parse other = .ok node) →
      NodeSpec.parse spec = .error e → ofSpecs base specs = .error e := by
  constructor
  · intro nodes hbase hspecs
    have hnamed := named_outline (isNameChar_of_isIdentifier hbase) (named_of_parse hspecs)
    refine ⟨(outline base nodes).text, outline base nodes, (ofSpecs_eq hbase hspecs).1,
      declares_outline base nodes, ?_, ?_⟩
    · intro s
      rw [Outline.read_eq_some_iff, and_iff_left hnamed]
    · exact Blocks.text_ends (by simp [Outline.blocks]) (Outline.solid_blocks hnamed)
  · rintro before spec after e rfl hbefore herror
    rw [ofSpecs, mapM_eq_error hbefore herror]
    rfl

/-- Two nodes with two fields each, one of them of the type of the base; and a wrong description behind
the first of them. -/
theorem ofSpecs_reads_two_nodes :
    let unary : NodeSpec := ⟨"Unary", [⟨"Token", "operator"⟩, ⟨"Expr", "right"⟩]⟩
    let named : NodeSpec := ⟨"Named", [⟨"Token", "name"⟩, ⟨"Any", "value"⟩]⟩
    (∃ text o,
        ofSpecs "Expr" ["Unary : Token operator, Expr right", "Named : Token name, Any value"] =
          .ok text ∧
        Declares o "Expr" [unary, named] ∧ (∀ s, Outline.read s = some o ↔ s = text) ∧
        ∃ body, text.toList = body ++ ['\n'] ∧ body.getLast? ≠ some '\n') ∧
      ofSpecs "Expr" ["Unary : Token operator, Expr right", "Unary", "Named : Token name"] =
        .error (.shape "Unary") := by
  intro unary named
  have hunary : NodeSpec.parse "Unary : Token operator, Expr right" = .ok unary := by decide
  have hnamed : NodeSpec.parse "Named : Token name, Any value" = .ok named := by decide
  refine ⟨(ofSpecs_reads "Expr" _).1 _ (by decide) (.cons hunary (.cons hnamed .nil)),
    (ofSpecs_reads "Expr" _).2 ["Unary : Token operator, Expr right"] "Unary" _ _ rfl ?_ (by decide)⟩
  exact List.forall_mem_singleton.mpr ⟨_, hunary⟩

end NodeModule

end LoxLex
