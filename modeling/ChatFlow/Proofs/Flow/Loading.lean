import ChatFlow.Flow.Loading
import ChatFlow.Proofs.Flow.Paths
import ChatFlow.Proofs.Keyed

/-!
# Libraries from files

A library that is loaded holds the flows of its files under their ids.  Files are read in the order
of their names, and a flow takes the place of an earlier one with the same id, so that the last
file counts.  Every file is served exactly when all their flows have different ids.
-/

namespace ChatFlow
namespace Flow

/-- The flow of a file. -/
def Holds (file : String × Except IoFault String) (graph : Graph) : Prop :=
  ∃ text, file.2 = .ok text ∧ Graph.ofText text = .ok graph

/-- The flows of the files in a directory, in the order of the names of the files. -/
def Stores (files : Files) (directory : String) (graphs : List Graph) : Prop :=
  ∃ names, files.list directory = .ok names ∧
    List.Forall₂ Holds
      (flowFiles (names.map fun name => (name, files.read (Path.join directory name)))) graphs

namespace Library

variable {library after : Library} {directory id : String} {graphs : List Graph}
  {bindings : List Binding}

/-- Every flow is served under its id, and there are as many ids as flows. -/
structure Serves (library : Library) (graphs : List Graph) : Prop where
  /-- Under the id of a flow stands this flow. -/
  each : ∀ graph ∈ graphs, library.get graph.id = .ok graph
  /-- There are as many ids as flows. -/
  all : library.ids.length = graphs.length

/-! ## What is loaded -/

/-- A file that is added holds a flow, which is inserted. -/
theorem exists_of_addFile
    {file : String × Except IoFault String}
    (added : addFile directory library file = .ok after) :
    ∃ graph, Holds file graph ∧ after = library.insert graph := by
  obtain ⟨name, _ | text⟩ := file
  · cases added
  · rw [addFile] at added
    cases parsed : Definition.ofText? text with
    | none =>
        rw [parsed] at added
        cases added
    | some definition =>
        simp only [parsed] at added
        cases valid : Graph.validate definition with
        | error error =>
            rw [valid] at added
            cases added
        | ok graph =>
            rw [valid] at added
            cases added
            refine ⟨graph, ⟨text, rfl, ?_⟩, rfl⟩
            simp only [Graph.ofText, parsed, valid]

/-- Files that are added hold flows, which are inserted one after the other. -/
theorem exists_of_addFiles
    {files : Listing}
    (added : files.foldlM (addFile directory) library = .ok after) :
    ∃ graphs, List.Forall₂ Holds files graphs ∧ after = graphs.foldl insert library := by
  induction files generalizing library with
  | nil =>
      cases added
      exact ⟨[], .nil, rfl⟩
  | cons file files inductionHypothesis =>
      rw [List.foldlM_cons] at added
      cases first : addFile directory library file with
      | error error =>
          rw [first] at added
          cases added
      | ok middle =>
          rw [first] at added
          obtain ⟨graph, holds, rfl⟩ := exists_of_addFile first
          obtain ⟨graphs, further, rfl⟩ := inductionHypothesis added
          exact ⟨graph :: graphs, .cons holds further, rfl⟩

/-- Bindings that are added stand behind the others, in order. -/
theorem eq_of_addBindings
    (added : bindings.foldlM addBinding library = .ok after) :
    after = { library with bindings := library.bindings ++ bindings } := by
  induction bindings generalizing library with
  | nil =>
      cases added
      rw [List.append_nil]
  | cons binding bindings inductionHypothesis =>
      rw [List.foldlM_cons, addBinding] at added
      cases known : library.get binding.flow with
      | error error =>
          rw [known] at added
          cases added
      | ok graph =>
          rw [known] at added
          rw [inductionHypothesis added, bind, List.append_assoc]
          rfl

/-- A library is loaded flows first, and bindings behind them. -/
theorem exists_flows_of_load
    {files : Files}
    (loaded : load files directory bindings = .ok library) :
    ∃ names flows, files.list directory = .ok names ∧
      (flowFiles (names.map fun name => (name, files.read (Path.join directory name)))).foldlM
        (addFile directory) empty = .ok flows ∧
      bindings.foldlM addBinding flows = .ok library := by
  rw [load] at loaded
  cases listed : files.list directory with
  | error fault =>
      rw [listed] at loaded
      cases loaded
  | ok names =>
      simp only [listed, ofListing] at loaded
      cases added : (flowFiles (names.map fun name =>
          (name, files.read (Path.join directory name)))).foldlM (addFile directory) empty with
      | error error =>
          rw [added] at loaded
          cases loaded
      | ok flows =>
          rw [added] at loaded
          exact ⟨names, flows, rfl, added, loaded⟩

/-- What is loaded is the library of the flows in the directory. -/
theorem exists_of_load
    {files : Files}
    (loaded : load files directory bindings = .ok library) :
    ∃ graphs, Stores files directory graphs ∧ library = ofFlows graphs bindings := by
  obtain ⟨names, flows, listed, added, bound⟩ := exists_flows_of_load loaded
  obtain ⟨graphs, holds, rfl⟩ := exists_of_addFiles added
  refine ⟨graphs, ⟨names, listed, holds⟩, ?_⟩
  have unbound (graphs : List Graph) (library : Library) :
      (graphs.foldl insert library).bindings = library.bindings := by
    induction graphs generalizing library with
    | nil => rfl
    | cons graph graphs inductionHypothesis => exact inductionHypothesis _
  rw [eq_of_addBindings bound, unbound]
  rfl

/-! ## What is served -/

/-- The flows of a library are filed under their ids. -/
theorem flows_ofFlows (graphs : List Graph) (bindings : List Binding) :
    (ofFlows graphs bindings).flows = Keyed.ofList (graphs.map fun graph => (graph.id, graph)) := by
  have filed (library : Library) :
      (graphs.foldl insert library).flows =
        graphs.foldl (fun flows graph => Keyed.insert graph.id graph flows) library.flows := by
    induction graphs generalizing library with
    | nil => rfl
    | cons graph graphs inductionHypothesis => exact inductionHypothesis _
  rw [ofFlows, Keyed.ofList, List.foldl_map]
  exact filed empty

/-- Of the flows with an id, the last one is served. -/
theorem get_ofFlows_iff {graph : Graph} :
    (ofFlows graphs bindings).get id = .ok graph ↔
      ∃ earlier later, graphs = earlier ++ graph :: later ∧ graph.id = id ∧
        ∀ other ∈ later, other.id ≠ id := by
  have served : (ofFlows graphs bindings).get id = .ok graph ↔
      Keyed.get? id (Keyed.ofList (graphs.map fun graph => (graph.id, graph))) = some graph := by
    rw [get, flows_ofFlows]
    cases Keyed.get? id (Keyed.ofList (graphs.map fun graph => (graph.id, graph))) <;> simp
  rw [served, Keyed.get?_ofList_eq_some_iff]
  constructor
  · rintro ⟨before, after, parts, others⟩
    obtain ⟨earlier, rest, rfl, rfl, tail⟩ := List.map_eq_append_iff.mp parts
    obtain ⟨same, later, rfl, pair, rfl⟩ := List.map_eq_cons_iff.mp tail
    cases pair
    refine ⟨earlier, later, rfl, rfl, ?_⟩
    intro other member
    exact others _ (List.mem_map_of_mem member)
  · rintro ⟨earlier, later, rfl, rfl, others⟩
    refine ⟨_, _, List.map_append, ?_⟩
    intro pair member
    obtain ⟨other, listed, rfl⟩ := List.mem_map.mp member
    exact others other listed

/-- The ids of a library are those of its flows. -/
theorem mem_ids_ofFlows_iff :
    id ∈ (ofFlows graphs bindings).ids ↔ ∃ graph ∈ graphs, graph.id = id := by
  rw [ids, flows_ofFlows, Keyed.mem_keys_ofList_iff]
  simp

/-- All flows are served exactly when no two of them share their id. -/
theorem serves_ofFlows_iff :
    (ofFlows graphs bindings).Serves graphs ↔ (graphs.map Graph.id).Nodup := by
  have counted : (ofFlows graphs bindings).ids.length = graphs.length ↔
      (graphs.map Graph.id).Nodup := by
    rw [ids, flows_ofFlows]
    simpa [List.map_map, Function.comp_def] using
      @Keyed.length_keys_ofList_eq_iff Graph (graphs.map fun graph => (graph.id, graph))
  constructor
  · intro serves
    exact counted.mp serves.all
  · intro distinct
    refine ⟨?_, counted.mpr distinct⟩
    intro graph member
    obtain ⟨earlier, later, rfl⟩ := List.append_of_mem member
    rw [get_ofFlows_iff]
    refine ⟨earlier, later, rfl, rfl, ?_⟩
    rw [List.map_append, List.map_cons, List.nodup_append, List.nodup_cons] at distinct
    intro other listed same
    exact distinct.2.1.1 (same ▸ List.mem_map_of_mem listed)

/-- A library that is loaded serves, under each id, the flow of the last file with this id.  The
flows of all files are served exactly when no two of them share their id. -/
theorem serves_iff_of_load
    {files : Files}
    (loaded : load files directory bindings = .ok library) :
    ∃ graphs, Stores files directory graphs ∧
      (∀ id graph, library.get id = .ok graph ↔
        ∃ earlier later, graphs = earlier ++ graph :: later ∧ graph.id = id ∧
          ∀ other ∈ later, other.id ≠ id) ∧
      library.ids.Nodup ∧ (∀ id, id ∈ library.ids ↔ ∃ graph ∈ graphs, graph.id = id) ∧
      (library.Serves graphs ↔ (graphs.map Graph.id).Nodup) := by
  obtain ⟨graphs, stores, rfl⟩ := exists_of_load loaded
  have sorted := Keyed.sorted_ofList (graphs.map fun graph => (graph.id, graph))
  refine ⟨graphs, stores, fun _ _ => get_ofFlows_iff, ?_, fun _ => mem_ids_ofFlows_iff,
    serves_ofFlows_iff⟩
  rw [ids, flows_ofFlows]
  exact sorted.nodup_keys

end Library

/-! ## Two files -/

/-- The text of a flow that does nothing. -/
def idleText (id name : String) : String :=
  "\x7b\"id\":\"" ++ id ++ "\",\"name\":\"" ++ name ++
    "\",\"nodes\":[\x7b\"id\":\"s\",\"type\":\"start\"\x7d]\x7d"

/-- A directory with an old and a new flow that do nothing. -/
def idleFiles (old new : String) : Files :=
  .ofPaths [("flows/a.json", some (idleText old "old")), ("flows/b.json", some (idleText new "new"))]

theorem entries_idleFiles (old new : String) :
    (idleFiles old new).entries =
      [(["flows", "a.json"], .ok (idleText old "old")),
        (["flows", "b.json"], .ok (idleText new "new"))] := by
  have first : Path.names "flows/a.json" = ["flows", "a.json"] := by decide +kernel
  have second : Path.names "flows/b.json" = ["flows", "b.json"] := by decide +kernel
  simp only [idleFiles, Files.ofPaths, Files.ofContents, List.map_cons, List.map_nil, first, second]

theorem list_idleFiles (old new : String) :
    (idleFiles old new).list "flows" = .ok ["a.json", "b.json"] := by
  have names : Path.names "flows" = ["flows"] := by decide +kernel
  simp [Files.list, Files.isDirectory, names, entries_idleFiles, List.eraseDups_cons]

theorem flowFiles_idleFiles (old new : String) :
    flowFiles (["a.json", "b.json"].map fun name =>
        (name, (idleFiles old new).read (Path.join "flows" name))) =
      [("a.json", .ok (idleText old "old")), ("b.json", .ok (idleText new "new"))] := by
  have first : Path.names (Path.join "flows" "a.json") = ["flows", "a.json"] := by decide +kernel
  have second : Path.names (Path.join "flows" "b.json") = ["flows", "b.json"] := by decide +kernel
  have kept : isFlowFile "a.json" = true ∧ isFlowFile "b.json" = true := by decide +kernel
  rw [flowFiles, List.mergeSort_of_pairwise]
  · simp [Files.read, Files.entry?, first, second, entries_idleFiles, kept]
  · simp [kept]

/-- What is told of a result by a part of it is told of a result that there is. -/
theorem exists_of_map_toOption
    {result : Except Error α}
    {part : α → β}
    {told : β}
    (tells : result.toOption.map part = some told) :
    ∃ value, result = .ok value ∧ part value = told := by
  cases result with
  | error error => cases tells
  | ok value => exact ⟨value, rfl, Option.some.inj tells⟩

/-- Two flows are stored in the directory, one in each file. -/
theorem exists_of_stores_idleFiles
    {old new : String}
    {graphs : List Graph}
    (stores : Stores (idleFiles old new) "flows" graphs) :
    ∃ first second, graphs = [first, second] ∧
      Graph.ofText (idleText old "old") = .ok first ∧
      Graph.ofText (idleText new "new") = .ok second := by
  obtain ⟨names, listed, holds⟩ := stores
  rw [list_idleFiles] at listed
  obtain rfl := Except.ok.inj listed
  rw [flowFiles_idleFiles] at holds
  obtain _ | ⟨⟨text, readFirst, first⟩, _ | ⟨⟨further, readSecond, second⟩, _ | _⟩⟩ := holds
  cases readFirst
  cases readSecond
  exact ⟨_, _, rfl, first, second⟩

namespace Library

theorem load_idleFiles (old new : String) (bindings : List Binding) :
    load (idleFiles old new) "flows" bindings =
      ([("a.json", .ok (idleText old "old")), ("b.json", .ok (idleText new "new"))].foldlM
        (addFile "flows") empty).bind fun flows => bindings.foldlM addBinding flows := by
  rw [load, list_idleFiles]
  simp only [ofListing, flowFiles_idleFiles]
  rfl

/-- Two flows with different ids are both served. -/
theorem serves_iff_of_load_idleFiles :
    ∃ library graphs, load (idleFiles "hi" "bye") "flows" [] = .ok library ∧
      Stores (idleFiles "hi" "bye") "flows" graphs ∧ library.ids = ["bye", "hi"] ∧
      library.Serves graphs := by
  have evaluated : (load (idleFiles "hi" "bye") "flows" []).toOption.map ids =
      some ["bye", "hi"] := by
    rw [load_idleFiles]
    decide +kernel
  obtain ⟨library, loaded, idsAre⟩ := exists_of_map_toOption evaluated
  obtain ⟨graphs, stores, -, -, -, serves⟩ := serves_iff_of_load loaded
  refine ⟨library, graphs, loaded, stores, idsAre, serves.mpr ?_⟩
  obtain ⟨first, second, rfl, old, new⟩ := exists_of_stores_idleFiles stores
  have firstId : (Graph.ofText (idleText "hi" "old")).toOption.map Graph.id = some "hi" := by
    decide +kernel
  have secondId : (Graph.ofText (idleText "bye" "new")).toOption.map Graph.id = some "bye" := by
    decide +kernel
  rw [old] at firstId
  rw [new] at secondId
  simp [Option.some.inj firstId, Option.some.inj secondId]

/-- Of two flows with the same id, the one in the first file is lost without an error. -/
theorem not_serves_idleFiles :
    (∃ library first second, load (idleFiles "hi" "hi") "flows" [] = .ok library ∧
        Stores (idleFiles "hi" "hi") "flows" [first, second] ∧ first.id = "hi" ∧
        library.ids = ["hi"] ∧ library.get "hi" ≠ .ok first) ∧
      ¬ ∀ files directory bindings library, load files directory bindings = .ok library →
        ∀ graphs, Stores files directory graphs → library.Serves graphs := by
  have evaluated : (load (idleFiles "hi" "hi") "flows" []).toOption.map
      (fun library => (library.ids, (library.get "hi").toOption.map Graph.name)) =
        some (["hi"], some "new") := by
    rw [load_idleFiles]
    decide +kernel
  have firstRead : (Graph.ofText (idleText "hi" "old")).toOption.map
      (fun graph => (graph.id, graph.name)) = some ("hi", "old") := by
    decide +kernel
  obtain ⟨library, loaded, told⟩ := exists_of_map_toOption evaluated
  obtain ⟨idsAre, served⟩ := Prod.mk.inj told
  obtain ⟨graphs, stores, -⟩ := exists_of_load loaded
  obtain ⟨first, second, rfl, old, new⟩ := exists_of_stores_idleFiles stores
  rw [old] at firstRead
  obtain ⟨firstId, firstName⟩ := Prod.mk.inj (Option.some.inj firstRead)
  have lost : library.get "hi" ≠ .ok first := by
    intro kept
    rw [kept] at served
    have same : first.name = "new" := Option.some.inj served
    rw [firstName] at same
    exact absurd same (by decide)
  refine ⟨⟨library, first, second, loaded, stores, firstId, idsAre, lost⟩, ?_⟩
  intro serves
  have kept := (serves _ _ _ _ loaded _ stores).each first List.mem_cons_self
  rw [firstId] at kept
  exact lost kept

end Library
end Flow
end ChatFlow
