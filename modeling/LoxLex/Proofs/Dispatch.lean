import LoxLex.Proofs.ModuleText

/-!
# LoxLex.Proofs.Dispatch — which method of the visitor a node calls

The class of a node calls the method that is named for the node, and a method is named in lower case.  So
the call reaches the method of this node alone as long as no two nodes have names that become one in
lower case.  Two names may well differ and become one; then the visitor declares the same method twice,
and both classes call it.

* `NodeModule.unambiguous_outline_iff`: when the calls reach the methods of their nodes.
* `NodeModule.ofSpecs_unambiguous_iff`: the same of the text for described nodes.
* `NodeModule.ofSpecs_merges`: the nodes `A` and `a` share a method.
-/

namespace LoxLex

open Unicode

/-- Every class calls a method of the visitor that is its own. -/
structure Outline.Unambiguous (o : Outline) : Prop where
  /-- No two methods have the same name. -/
  distinct : (o.methods.map MethodOutline.name).Nodup
  /-- The method that a class calls is that of its node, and no other has the name. -/
  own : ∀ c ∈ o.classes, ∃ m ∈ o.methods, m.name = c.calls ∧ m.node = c.name ∧
    ∀ other ∈ o.methods, other.name = c.calls → other = m

namespace NodeModule

/-- Methods of one visitor have the same name just when their nodes have, in lower case. -/
theorem methodName_eq_iff {node other base : String} :
    methodName node base = methodName other base ↔ lower node = lower other := by
  unfold methodName
  simp

theorem names_outline (base : String) (nodes : List NodeSpec) :
    (outline base nodes).methods.map MethodOutline.name =
      nodes.map fun node => methodName node.name base := by
  rw [outline, List.map_map]
  rfl

theorem nodup_names_outline_iff (base : String) (nodes : List NodeSpec) :
    ((outline base nodes).methods.map MethodOutline.name).Nodup ↔
      (nodes.map fun node => lower node.name).Nodup := by
  rw [names_outline]
  unfold List.Nodup
  rw [List.pairwise_map, List.pairwise_map]
  simp only [ne_eq, methodName_eq_iff]

/-- **The calls reach the methods of their nodes** just when no two names become one in lower case. -/
theorem unambiguous_outline_iff (base : String) (nodes : List NodeSpec) :
    (outline base nodes).Unambiguous ↔ (nodes.map fun node => lower node.name).Nodup := by
  rw [← nodup_names_outline_iff base]
  refine ⟨Outline.Unambiguous.distinct, fun h => ⟨h, ?_⟩⟩
  intro c hc
  obtain ⟨node, hnode, rfl⟩ := List.mem_map.mp hc
  have hm : methodOutline base node ∈ (outline base nodes).methods := List.mem_map_of_mem hnode
  refine ⟨methodOutline base node, hm, rfl, rfl, fun other hother hname => ?_⟩
  exact List.inj_on_of_nodup_map h hother hm hname

/-- **The methods of a module are unambiguous** just when no two of the described nodes have names that
become one in lower case.  That the names are distinct is not enough. -/
theorem ofSpecs_unambiguous_iff {base : String} {specs : List String} {nodes : List NodeSpec}
    (hbase : isIdentifier base.toList = true)
    (hspecs : List.Forall₂ (fun spec node => NodeSpec.parse spec = .ok node) specs nodes) :
    ∃ text o, ofSpecs base specs = .ok text ∧ Outline.read text = some o ∧
      Declares o base nodes ∧ (o.Unambiguous ↔ (nodes.map fun node => lower node.name).Nodup) := by
  obtain ⟨htext, hread⟩ := ofSpecs_eq hbase hspecs
  exact ⟨_, _, htext, hread, declares_outline base nodes, unambiguous_outline_iff base nodes⟩

/-- The nodes of expressions have methods of their own. -/
theorem ofSpecs_unambiguous_expressions :
    isIdentifier "Expr".toList = true ∧ ∃ text o,
      ofSpecs "Expr" NodeSpec.expressions = .ok text ∧ Outline.read text = some o ∧
        o.Unambiguous := by
  have hbase : isIdentifier "Expr".toList = true := by decide
  have hspecs : List.Forall₂ (fun spec node => NodeSpec.parse spec = .ok node) NodeSpec.expressions
      [⟨"Binary", [⟨"Expr", "left"⟩, ⟨"Token", "operator"⟩, ⟨"Expr", "right"⟩]⟩,
        ⟨"Grouping", [⟨"Expr", "expression"⟩]⟩, ⟨"Literal", [⟨"Any", "value"⟩]⟩,
        ⟨"Unary", [⟨"Token", "operator"⟩, ⟨"Expr", "right"⟩]⟩] :=
    .cons (by decide) (.cons (by decide) (.cons (by decide) (.cons (by decide) .nil)))
  obtain ⟨text, o, htext, hread, -, hiff⟩ := ofSpecs_unambiguous_iff hbase hspecs
  exact ⟨hbase, text, o, htext, hread, hiff.mpr (by decide)⟩

/-- **Distinct names may share a method**: it is declared twice, and both classes call it. -/
theorem ofSpecs_merges :
    let nodes : List NodeSpec := [⟨"A", [⟨"Any", "x"⟩]⟩, ⟨"a", [⟨"Any", "y"⟩]⟩]
    isIdentifier "Expr".toList = true ∧
      List.Forall₂ (fun spec node => NodeSpec.parse spec = .ok node) ["A : Any x", "a : Any y"] nodes ∧
      (nodes.map NodeSpec.name).Nodup ∧
      ∃ text o, ofSpecs "Expr" ["A : Any x", "a : Any y"] = .ok text ∧ Outline.read text = some o ∧
        o.methods.map MethodOutline.name = ["visit_a_expr", "visit_a_expr"] ∧
        o.classes.map ClassOutline.calls = ["visit_a_expr", "visit_a_expr"] ∧
        ¬ o.Unambiguous := by
  intro nodes
  have hbase : isIdentifier "Expr".toList = true := by decide
  have hspecs : List.Forall₂ (fun spec node => NodeSpec.parse spec = .ok node)
      ["A : Any x", "a : Any y"] nodes := .cons (by decide) (.cons (by decide) .nil)
  obtain ⟨htext, hread⟩ := ofSpecs_eq hbase hspecs
  have hmethods : (outline "Expr" nodes).methods.map MethodOutline.name =
      ["visit_a_expr", "visit_a_expr"] := by decide
  refine ⟨hbase, hspecs, by decide, _, _, htext, hread, hmethods, by decide, fun h => ?_⟩
  have hdistinct := h.distinct
  rw [hmethods] at hdistinct
  exact absurd hdistinct (by decide)

end NodeModule

end LoxLex
