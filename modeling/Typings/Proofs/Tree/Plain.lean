import Typings.Proofs.Document.Rewritten
import Typings.Proofs.Hierarchy.Settled
import Typings.Tree.Outline

/-!
# Trees without notes of default values

A parameter notes whether it has a default value. The tree of a set of documents is built and
reconciled without a look at these notes, so dropping them from the tree is the same as never
having taken them.

* `Parameter.plain`, `Method.plain`, `Declaration.plain`, `Hierarchy.plain`: what is left without
  the notes;
* `Hierarchy.reconcile_plain`: reconciliation does not look at them;
* `Outline.forest_map`: the forest of declarations is built by their names and libraries;
* `Tree.plain_reconcile_finiteOnly`: documents and what is read back of them have one tree without
  notes.
-/

namespace Typings

/-! ## Without the notes -/

/-- The parameter without the note that it has a default value. -/
def Parameter.plain (parameter : Parameter) : Parameter :=
  { parameter with hasDefault := false }

def Method.plain (method : Method) : Method :=
  { method with parameters := method.parameters.map Parameter.plain }

def Declaration.plain (d : Declaration) : Declaration :=
  d.mapMethods Method.plain

def Class.plainMethods (c : Class) : List Method :=
  c.methods.map Method.plain

def Class.plain (c : Class) : Class :=
  c.withMethods plainMethods

def Hierarchy.plain (h : Hierarchy) : Hierarchy :=
  h.mapMethods Class.plainMethods

/-! ## Hierarchies -/

namespace Class

variable {c : Class}

theorem method?_plain (name : String) (isStatic : Bool) :
    c.plain.method? name isStatic = (c.method? name isStatic).map Method.plain := by
  have hmethods : c.plainMethods = c.methods.map Method.plain := rfl
  exact method?_withMethods hmethods (fun _ => rfl) (fun _ => rfl) name isStatic

end Class

namespace Hierarchy

variable {h : Hierarchy} {c : Class} {method : Method} {rules : Config.MemberRules}

theorem overridden?_plain :
    h.plain.overridden? c.plain method.plain =
      (h.overridden? c method).map fun found => (found.1.plain, found.2.plain) := by
  -- an ancestor is asked for a name, not for parameters
  have hsearch : ∀ ancestor : Class,
      ((ancestor.plain.method? method.name method.isStatic).map fun found =>
        (ancestor.plain, found)) =
      ((ancestor.method? method.name method.isStatic).map fun found => (ancestor, found)).map
        fun found => (found.1.plain, found.2.plain) := by
    intro ancestor
    rw [Class.method?_plain, Option.map_map, Option.map_map]
    rfl
  rw [overridden?, plain, ancestors_mapMethods Class.plainMethods rfl rfl, List.findSome?_map,
    overridden?, List.map_findSome?]
  exact congrArg (List.findSome? · _) (funext hsearch)

/-- What a method is settled on does not look at the notes. -/
theorem settleMethod_plain :
    h.plain.settleMethod rules c.plain method.plain = (h.settleMethod rules c method).plain := by
  rw [settleMethod, overridden?_plain, settleMethod]
  cases h.overridden? c method with
  | none => rfl
  | some found =>
      have houtcome :
          h.plain.settledOutcome rules found.1.plain found.2.plain c.plain method.plain =
            h.settledOutcome rules found.1 found.2 c method := by
        simp only [settledOutcome, requiredOutcome?, plain, compatible_mapMethods]
        rfl
      simp only [Option.map_some, houtcome]
      rfl

theorem settleClass_plain (name : String) :
    settleClass rules h.plain name = (settleClass rules h name).plain := by
  rw [settleClass, plain, mapMethods_mapMethods, settleClass, plain, mapMethods_mapMethods]
  refine congrArg h.mapMethods (funext fun c => ?_)
  rw [Class.withMethods_fullName, Class.withMethods_methods, Class.plainMethods,
    Class.plainMethods, Class.withMethods_methods]
  split
  case isTrue =>
    rw [List.map_map, List.map_map]
    exact List.map_congr_left fun method _ => settleMethod_plain
  case isFalse => rfl

theorem reconcile_plain : h.plain.reconcile rules = (h.reconcile rules).plain := by
  have hrun : h.settlingOrder.foldl (settleClass rules) h.plain =
      (h.settlingOrder.foldl (settleClass rules) h).plain :=
    List.foldl_hom plain fun _ name => settleClass_plain name
  rw [reconcile, reconcile, ← hrun, plain, settlingOrder_mapMethods]

theorem add_plain : h.plain.add c.plain = (h.add c).plain := by
  have hcontains : h.plain.contains c.plain.fullName = h.contains c.fullName := rfl
  rw [add, add?, add, add?, hcontains]
  cases h.contains c.fullName with
  | true => rfl
  | false =>
      have hclasses : h.plain.classes ++ [c.plain] = (h.classes ++ [c]).map Class.plain := by
        rw [List.map_append]
        rfl
      have hlength : h.plain.classes.length = h.classes.length := List.length_map _
      simp only [hclasses, hlength, Bool.false_eq_true, if_false, Option.getD_some]
      rfl

theorem ofList_plain (classes : List Class) :
    ofList (classes.map Class.plain) = (ofList classes).plain := by
  have hrun : classes.foldl (fun h c => h.add c.plain) (plain {}) =
      (classes.foldl add {}).plain :=
    List.foldl_hom plain fun _ _ => add_plain
  rw [ofList, List.foldl_map]
  exact hrun

end Hierarchy

/-! ## Bodies -/

namespace Body

variable (f : Method → Method) (body : Body)

theorem kind_mapMethods : (body.mapMethods f).kind = body.kind := by
  cases body <;> rfl

theorem methods_mapMethods : (body.mapMethods f).methods = body.methods.map f := by
  cases body <;> rfl

theorem constructor?_mapMethods : (body.mapMethods f).constructor? = body.constructor?.map f := by
  cases body <;> rfl

theorem properties_mapMethods : (body.mapMethods f).properties = body.properties := by
  cases body <;> rfl

theorem mapMethods_mapMethods (g : Method → Method) :
    (body.mapMethods f).mapMethods g = body.mapMethods (g ∘ f) := by
  cases body <;> simp [mapMethods]

theorem mapMethods_id : body.mapMethods id = body := by
  cases body <;> simp [mapMethods]

end Body

/-! ## Declarations -/

namespace Declaration

variable {d : Declaration} {h : Hierarchy}

theorem fullName_plain (d : Declaration) : d.plain.fullName = d.fullName := rfl

theorem library_plain (d : Declaration) : d.plain.library = d.library := rfl

theorem plain_containerFor (name library : String) :
    (containerFor name library).plain = containerFor name library := rfl

theorem class?_plain : d.plain.class? = d.class?.map Class.plain := by
  rw [plain, mapMethods, class?, class?]
  cases d.body <;> rfl

theorem withMethodsFrom_plain :
    d.plain.withMethodsFrom h.plain = (d.withMethodsFrom h).plain := by
  have hget : h.plain.get? d.fullName = (h.get? d.fullName).map Class.plain :=
    Hierarchy.get?_mapMethods Class.plainMethods d.fullName
  rcases d with ⟨fullName, library, moduleName, description, body⟩
  cases body with
  | classType base interfaces constructor members =>
      simp only [withMethodsFrom, plain, mapMethods, Body.mapMethods] at hget ⊢
      rw [hget]
      cases h.get? fullName <;> rfl
  | _ => rfl

end Declaration

/-! ## Forests -/

namespace Forest

variable {f : Declaration → Declaration}

theorem append_map (d : Declaration) (forest : Forest) :
    (forest.map f).append (f d) = (forest.append d).map f := by
  induction forest with
  | empty => rfl
  | grow first below beside _ ihbeside => rw [map, append, ihbeside, append, map]

theorem appendUnder_map (hname : ∀ d, (f d).fullName = d.fullName) (parent : String)
    (d : Declaration) (forest : Forest) :
    (forest.map f).appendUnder parent (f d) = (forest.appendUnder parent d).map f := by
  induction forest with
  | empty => rfl
  | grow first below beside ihbelow ihbeside =>
      rw [map, appendUnder, appendUnder, hname, append_map, ihbelow, ihbeside]
      split <;> rfl

theorem hang_map (hname : ∀ d, (f d).fullName = d.fullName) (d : Declaration) (forest : Forest) :
    (forest.map f).hang (f d) = (forest.hang d).map f := by
  rw [hang, hang, hname]
  split
  · exact appendUnder_map hname _ d forest
  · exact append_map d forest

theorem map_map (f g : Declaration → Declaration) (forest : Forest) :
    (forest.map f).map g = forest.map (g ∘ f) := by
  induction forest with
  | empty => rfl
  | grow d below beside ihbelow ihbeside => rw [map, map, ihbelow, ihbeside, map, Function.comp]

end Forest

namespace Outline

variable {f : Declaration → Declaration}

theorem byLevel_map (hname : ∀ d, (f d).fullName = d.fullName) (ds : List Declaration) :
    byLevel (ds.map f) = (byLevel ds).map f := by
  have hnames : (ds.map f).map (fun d => QualifiedName.depth d.fullName) =
      ds.map fun d => QualifiedName.depth d.fullName := by
    rw [List.map_map]
    exact List.map_congr_left fun d _ => congrArg QualifiedName.depth (hname d)
  have hlevel : ∀ level, (ds.map f).filter (fun d => QualifiedName.depth d.fullName = level) =
      (ds.filter fun d => QualifiedName.depth d.fullName = level).map f := by
    intro level
    rw [List.filter_map]
    refine congrArg (List.map f) (List.filter_congr fun d _ => ?_)
    rw [Function.comp_apply, hname]
  simp only [byLevel, hnames, hlevel, List.map_flatMap]

theorem withContainers_map (hname : ∀ d, (f d).fullName = d.fullName)
    (hlibrary : ∀ d, (f d).library = d.library)
    (hcontainer : ∀ name library, f (.containerFor name library) = .containerFor name library)
    (declared : List String) (ds : List Declaration) :
    withContainers declared (ds.map f) = (withContainers declared ds).map f := by
  induction ds generalizing declared with
  | nil => rfl
  | cons d rest ih =>
      have hmissing : missingContainers declared (f d) = missingContainers declared d := by
        rw [missingContainers, missingContainers, hname, hlibrary]
      -- which containers are missing is told by names, and the change leaves containers alone
      have hsame : (missingContainers declared d).map f = missingContainers declared d := by
        rw [missingContainers, List.map_reverse, List.map_map]
        refine congrArg List.reverse (List.map_congr_left fun name _ => ?_)
        exact hcontainer name d.library
      simp only [List.map_cons, withContainers, hmissing, ih, List.map_append, hsame]

/-- The forest of declarations with the containers that they need. -/
def forest (ds : List Declaration) : Forest :=
  (byLevel (withContainers (ds.map (·.fullName)) ds)).foldl Forest.hang .empty

theorem forest_map (hname : ∀ d, (f d).fullName = d.fullName)
    (hlibrary : ∀ d, (f d).library = d.library)
    (hcontainer : ∀ name library, f (.containerFor name library) = .containerFor name library)
    (ds : List Declaration) : forest (ds.map f) = (forest ds).map f := by
  have hnames : (ds.map f).map (·.fullName) = ds.map (·.fullName) := by
    rw [List.map_map]
    exact List.map_congr_left fun d _ => hname d
  have hhang : ∀ ds : List Declaration,
      ds.foldl (fun hung d => hung.hang (f d)) (Forest.empty.map f) =
        (ds.foldl Forest.hang .empty).map f :=
    fun _ => List.foldl_hom (Forest.map f) fun hung d => Forest.hang_map hname d hung
  rw [forest, hnames, withContainers_map hname hlibrary hcontainer, byLevel_map hname,
    List.foldl_map, forest, ← hhang, Forest.map]

/-! ## Documents read back -/

variable {config : Config} {documents : List Document}

/-- A symbol without its infinite and undefined numbers. -/
def LocatedSymbol.finiteOnly (entry : LocatedSymbol) : LocatedSymbol :=
  { entry with symbol := entry.symbol.finiteOnly }

theorem kept_finiteOnly :
    kept config (documents.map Document.finiteOnly) =
      (kept config documents).map LocatedSymbol.finiteOnly := by
  have hlocated : located (documents.map Document.finiteOnly) =
      (located documents).map LocatedSymbol.finiteOnly := by
    rw [located, List.flatMap_map, located, List.map_flatMap]
    refine List.flatMap_congr fun document _ => ?_
    rw [Document.finiteOnly, List.map_map, List.map_map]
    rfl
  have hkept : ∀ (entries : List LocatedSymbol) (seen : List String),
      keptFrom config.ignore seen (entries.map LocatedSymbol.finiteOnly) =
        (keptFrom config.ignore seen entries).map LocatedSymbol.finiteOnly := by
    intro entries
    induction entries with
    | nil => exact fun _ => rfl
    | cons entry rest ih =>
        intro seen
        have hname : (LocatedSymbol.finiteOnly entry).symbol.heading.name =
            entry.symbol.heading.name := rfl
        simp only [List.map_cons, keptFrom, hname, ih]
        split <;> rfl
  rw [kept, hlocated, hkept, kept]

theorem plain_ofParameters_finiteOnly (replacements : Config.Replacements) (name : String)
    (parameters : List Document.Parameter) :
    ((parameters.map Document.Parameter.finiteOnly).map
        (Parameter.ofDocument replacements name)).map Parameter.plain =
      (parameters.map (Parameter.ofDocument replacements name)).map Parameter.plain := by
  rw [List.map_map, List.map_map, List.map_map]
  rfl

theorem plain_ofMethod_finiteOnly (replacements : Config.Replacements) (name : String) (kind : Kind)
    (method : Document.Method) :
    (Method.ofDocument replacements name kind method.finiteOnly).plain =
      (Method.ofDocument replacements name kind method).plain :=
  congrArg (fun parameters =>
      { Method.ofDocument replacements name kind method with parameters })
    (plain_ofParameters_finiteOnly replacements _ method.parameters)

theorem plain_ofConstructor_finiteOnly (replacements : Config.Replacements) (name : String)
    (constructor : Document.Constructor) :
    (Method.ofConstructor replacements name constructor.finiteOnly).plain =
      (Method.ofConstructor replacements name constructor).plain :=
  congrArg (fun parameters =>
      { Method.ofConstructor replacements name constructor with parameters })
    (plain_ofParameters_finiteOnly replacements _ constructor.parameters)

theorem plain_ofMethods_finiteOnly (replacements : Config.Replacements) (name : String)
    (kind : Kind) (methods : List Document.Method) :
    ((methods.map Document.Method.finiteOnly).map (Method.ofDocument replacements name kind)).map
        Method.plain =
      (methods.map (Method.ofDocument replacements name kind)).map Method.plain := by
  rw [List.map_map, List.map_map, List.map_map]
  exact List.map_congr_left fun method _ => plain_ofMethod_finiteOnly replacements name kind method

/-- The declaration of a symbol differs from that of what is read back in its notes only. -/
theorem plain_ofSymbol_finiteOnly (replacements : Config.Replacements) (library : String)
    (symbol : Document.Symbol) :
    (Declaration.ofSymbol replacements library symbol.finiteOnly).plain =
      (Declaration.ofSymbol replacements library symbol).plain := by
  rcases symbol with ⟨heading, content⟩
  refine congrArg (fun body =>
    { Declaration.ofSymbol replacements library ⟨heading, content⟩ with body }) ?_
  cases content with
  | nameSpace base members =>
      simp only [Declaration.ofSymbol, Declaration.bodyOf, Document.Symbol.finiteOnly,
        Document.Content.finiteOnly, Document.Members.finiteOnly, Body.mapMethods,
        plain_ofMethods_finiteOnly]
  | classType base interfaces isAbstract constructor members =>
      simp only [Declaration.ofSymbol, Declaration.bodyOf, Document.Symbol.finiteOnly,
        Document.Content.finiteOnly, Document.Members.finiteOnly, Body.mapMethods,
        plain_ofMethods_finiteOnly]
      cases constructor with
      | none => rfl
      | some constructor =>
          simp only [Option.map_some, plain_ofConstructor_finiteOnly]
  | enumeration entries => rfl
  | interfaceType base members =>
      simp only [Declaration.ofSymbol, Declaration.bodyOf, Document.Symbol.finiteOnly,
        Document.Content.finiteOnly, Document.Members.finiteOnly, Body.mapMethods,
        plain_ofMethods_finiteOnly]
  | typeAlias => rfl

theorem plain_documented_finiteOnly :
    (documented config (documents.map Document.finiteOnly)).map Declaration.plain =
      (documented config documents).map Declaration.plain := by
  rw [documented, kept_finiteOnly, documented, List.map_map, List.map_map, List.map_map]
  exact List.map_congr_left fun entry _ =>
    plain_ofSymbol_finiteOnly config.replacements entry.library entry.symbol

end Outline

namespace Tree

variable {config : Config} {documents : List Document}

theorem plain_forest_ofDocuments :
    (ofDocuments config documents).forest.map Declaration.plain =
      Outline.forest ((Outline.documented config documents).map Declaration.plain) :=
  (Outline.forest_map Declaration.fullName_plain Declaration.library_plain
    Declaration.plain_containerFor (Outline.documented config documents)).symm

theorem plain_hierarchy_ofDocuments :
    (ofDocuments config documents).hierarchy.plain =
      .ofList (((Outline.documented config documents).map Declaration.plain).filterMap
        Declaration.class?) := by
  rw [ofDocuments, ← Hierarchy.ofList_plain, List.map_filterMap, List.filterMap_map]
  refine congrArg Hierarchy.ofList (List.filterMap_congr fun d _ => ?_)
  exact Declaration.class?_plain.symm

theorem plain_reconcile (tree : Tree) :
    tree.reconcile.forest.map Declaration.plain =
      (tree.forest.map Declaration.plain).map (Declaration.withMethodsFrom
        (tree.hierarchy.plain.reconcile tree.config.replacements.specific)) := by
  rw [reconcile, Forest.map_map, Forest.map_map, Hierarchy.reconcile_plain]
  refine congrArg tree.forest.map (funext fun d => ?_)
  exact Declaration.withMethodsFrom_plain.symm

/-- Documents and what is read back of them have one reconciled forest without notes. -/
theorem plain_reconcile_finiteOnly :
    (ofDocuments config (documents.map Document.finiteOnly)).reconcile.forest.map
        Declaration.plain =
      (ofDocuments config documents).reconcile.forest.map Declaration.plain := by
  rw [plain_reconcile, plain_reconcile, plain_forest_ofDocuments, plain_forest_ofDocuments,
    plain_hierarchy_ofDocuments, plain_hierarchy_ofDocuments, Outline.plain_documented_finiteOnly]
  rfl

end Tree
end Typings
