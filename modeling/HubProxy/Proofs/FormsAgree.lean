import HubProxy.Proofs.AlikeBuilds
import HubProxy.Proofs.ModuleReading
import HubProxy.Proofs.WrittenDocument

/-!
# Documents and modules agree

A contract can be said by a document or by a module. Both are read in the same order and come to the
same types and operations, so both come to the same source, or none of them does.
-/

namespace HubProxy.Proofs

open ContractModule

lemma ofText_eq_ofDocument {text : String} {doc : Document} (h : Document.load text = .ok doc)
    (source : String) : Contract.ofText text source = Contract.ofDocument doc source := by
  unfold Contract.ofText
  rw [h]

lemma ofText_of_says {b : Blueprint} (hb : b.WellFormed) {doc : Document} {text : String}
    (hload : Document.load text = .ok doc) (hs : Says doc b) {received invoked : List Operation}
    {t : Contract.TypeTable}
    (hread : (b.read b.types.length).run ⟨#[], []⟩ = some ((received, invoked), t))
    (source : String) :
    ∃ m, Contract.ofText text source = .ok m ∧ ComesFrom m received invoked t.classes := by
  obtain ⟨m, hm, hcomes⟩ := ofDocument_of_says hb hs hread source
  exact ⟨m, (ofText_eq_ofDocument hload source).trans hm, hcomes⟩

lemma ofDefinitions_of_fits {b : Blueprint} (hb : b.WellFormed) (hkeep : b.KeepsMembers)
    {w : Wording} (hw : w.Fits b) {received invoked : List Operation} {t : Contract.TypeTable}
    (hread : (b.read b.types.length).run ⟨#[], []⟩ = some ((received, invoked), t))
    (stem path : String) :
    ∃ m, ofDefinitions stem path (b.definitions w) = .ok m ∧
      ComesFrom m received invoked t.classes := by
  obtain ⟨m, hload, hm⟩ := exists_carried (moduleName stem) hb hkeep hw
  obtain ⟨md, hmd, hcomes⟩ :=
    hm.exists_metadata hb (moduleName_not_mem_primitiveHomes stem) hread
  refine ⟨md, ?_, hcomes⟩
  unfold ofDefinitions
  rw [hload]
  exact hmd

section Doors

/-- A value of a document whose scalars are all texts. -/
inductive PlainValue where
  | text (s : String)
  | items (ids : List Nat)
  | entries (es : List (String × Nat))
  deriving DecidableEq

def PlainValue.value : PlainValue → Document.Value
  | .text s => .scalar (.text s)
  | .items ids => .sequence ids
  | .entries es => .mapping (es.map fun e => (.text e.1, e.2))

def plainEntry? : Document.Scalar × Nat → Option (String × Nat)
  | (.text s, id) => some (s, id)
  | _ => none

def plainValue? : Document.Value → Option PlainValue
  | .scalar (.text s) => some (.text s)
  | .sequence ids => some (.items ids)
  | .mapping es => (es.mapM plainEntry?).map .entries
  | _ => none

lemma eq_map_of_mapM {f : α → Option β} {g : β → α} (hf : ∀ a b, f a = some b → a = g b)
    {l : List α} {l' : List β} (h : l.mapM f = some l') : l = l'.map g := by
  induction l generalizing l' with
  | nil =>
    cases h
    rfl
  | cons a l ih =>
    rw [List.mapM_cons] at h
    obtain ⟨b, hb, hrest⟩ := Option.bind_eq_some_iff.mp h
    obtain ⟨bs, hbs, heq⟩ := Option.bind_eq_some_iff.mp hrest
    cases heq
    rw [List.map_cons, ← hf a b hb, ← ih hbs]

lemma eq_of_plainEntry? {e : Document.Scalar × Nat} {p : String × Nat}
    (h : plainEntry? e = some p) : e = (.text p.1, p.2) := by
  obtain ⟨key, id⟩ := e
  cases key <;> cases h
  rfl

lemma eq_value_of_plainValue? {v : Document.Value} {p : PlainValue} (h : plainValue? v = some p) :
    v = p.value := by
  cases v with
  | scalar s =>
    cases s <;> cases h
    rfl
  | sequence ids =>
    cases h
    rfl
  | mapping es =>
    obtain ⟨ps, hps, rfl⟩ := Option.map_eq_some_iff.mp h
    exact congrArg Document.Value.mapping
      (eq_map_of_mapM (fun _ _ => eq_of_plainEntry?) hps)
  | set => cases h
  | pairs => cases h

/-- A document of plain values. -/
def plainDocument (values : List PlainValue) (top : Nat) : Document :=
  ⟨(values.map PlainValue.value).toArray, top⟩

lemma load_eq_of_plain {text : String} {values : List PlainValue} {top : Nat}
    (h : ((Document.load text).toOption.bind fun doc =>
      (doc.values.toList.mapM plainValue?).map (·, doc.top)) = some (values, top)) :
    Document.load text = .ok (plainDocument values top) := by
  obtain ⟨doc, hdoc, hplain⟩ := Option.bind_eq_some_iff.mp h
  obtain ⟨_, hvalues, heq⟩ := Option.map_eq_some_iff.mp hplain
  cases heq
  have hlist : doc.values.toList = values.map PlainValue.value :=
    eq_map_of_mapM (fun _ _ => eq_value_of_plainValue?) hvalues
  rw [eq_ok_of_toOption hdoc, plainDocument, ← hlist]

/-- A contract about doors with locks. The second member of the enumeration is as given. -/
def doorPlan (lock : String) : Blueprint where
  types := [
    ("Door", .record false [("next", .array (.named "Door")), ("lock", .named "Lock")]),
    ("Lock", .enum ["open", lock])]
  received := []
  invoked := [⟨"Opened", [("door", .named "Door")]⟩]

/-- The contract as a document. -/
def doorText (lock : String) : String :=
  "\x7bhub: \x7b\x7d, " ++
    "client_api: \x7boperations: [\x7bname: Opened, parameters: \x7bdoor: Door\x7d\x7d]\x7d, " ++
    "types: \x7bDoor: \x7bproperties: \x7bnext: 'Door[]', lock: Lock\x7d\x7d, " ++
    "Lock: \x7bkind: enum, members: [open, " ++ lock ++ "]\x7d\x7d\x7d"

/-- The values of the document. -/
def doorValues (lock : String) : List PlainValue := [
  .entries [("hub", 2), ("client_api", 4), ("types", 6)], .text "hub", .entries [],
  .text "client_api", .entries [("operations", 8)], .text "types",
  .entries [("Door", 10), ("Lock", 12)], .text "operations", .items [13], .text "Door",
  .entries [("properties", 15)], .text "Lock", .entries [("kind", 17), ("members", 19)],
  .entries [("name", 21), ("parameters", 23)], .text "properties",
  .entries [("next", 25), ("lock", 27)], .text "kind", .text "enum", .text "members",
  .items [28, 29], .text "name", .text "Opened", .text "parameters", .entries [("door", 31)],
  .text "next", .text "Door[]", .text "lock", .text "Lock", .text "open", .text lock, .text "door",
  .text "Door"]

def doorDocument (lock : String) : Document :=
  plainDocument (doorValues lock) 0

lemma load_doorText {lock : String} (hlock : lock ∈ ["shut", "__shut"]) :
    Document.load (doorText lock) = .ok (doorDocument lock) := by
  have hplain : ∀ lock ∈ ["shut", "__shut"],
      ((Document.load (doorText lock)).toOption.bind fun doc =>
        (doc.values.toList.mapM plainValue?).map (·, doc.top)) = some (doorValues lock, 0) := by
    decide +kernel
  exact load_eq_of_plain (hplain lock hlock)

lemma says_doorDocument (lock : String) : Says (doorDocument lock) (doorPlan lock) := by
  refine ⟨_, _, rfl, .mapping rfl, ?_, ?_, ?_⟩
  · refine List.forall_mem_cons.mpr ⟨⟨10, rfl, ?_⟩, List.forall_mem_singleton.mpr ⟨12, rfl, ?_⟩⟩
    · exact ⟨_, _, .mapping rfl, .missing, .mapping rfl,
        .cons ⟨rfl, rfl⟩ (.cons ⟨rfl, rfl⟩ .nil)⟩
    · exact ⟨_, _, .mapping rfl, .text rfl, .sequence rfl, .cons rfl (.cons rfl .nil)⟩
  · exact ⟨2, _, _, _, rfl, rfl, .missing, .missing, .nil⟩
  · refine ⟨4, _, _, _, rfl, rfl, .missing, .sequence rfl, .cons ?_ .nil⟩
    exact ⟨_, _, _, 21, .mapping rfl, rfl, rfl, .mapping rfl, .cons ⟨rfl, rfl⟩ .nil, .missing,
      by decide⟩

lemma wellFormed_doorPlan {lock : String} (hlock : lock ∈ ["shut", "__shut"]) :
    (doorPlan lock).WellFormed where
  names := by
    have hnames : (doorPlan lock).names = ["Door", "Lock"] := rfl
    rw [hnames]
    decide
  unmarked := by
    have hnames : (doorPlan lock).names = ["Door", "Lock"] := rfl
    rw [hnames]
    decide
  apart := by
    have hnames : (doorPlan lock).names = ["Door", "Lock"] := rfl
    rw [hnames]
    decide
  members := by
    have hne : "open" ≠ lock := by
      rintro rfl
      revert hlock
      decide
    refine List.forall_mem_cons.mpr ⟨nofun, List.forall_mem_singleton.mpr fun members h => ?_⟩
    cases h
    simp [hne]
  properties := by
    refine List.forall_mem_cons.mpr ⟨⟨by decide, by decide⟩, List.forall_mem_singleton.mpr ?_⟩
    exact ⟨.nil, nofun⟩
  received := .nil
  invoked := List.pairwise_singleton _ _
  operations := List.forall_mem_singleton.mpr ⟨by decide, by decide, by decide, by decide⟩
  closed := by
    refine List.forall_mem_cons.mpr ⟨?_, List.forall_mem_singleton.mpr nofun⟩
    simp [doorPlan, Blueprint.names, TypePlan.uses, TypeUse.IsIn]
  parameters := by simp [doorPlan, Blueprint.operations, Blueprint.names, TypeUse.IsIn]

/-- A wording with a word for everything. -/
def plainWording : Wording where
  common
    | .string => .plain "str"
    | .int => .plain "int"
    | .double => .plain "float"
    | .bool => .plain "bool"
    | .decimal => .plain "Decimal"
    | .object => .plain "Any"
    | .dateTime => .within "datetime" "datetime"
    | .timeSpan => .plain "timedelta"
    | .guid => .plain "UUID"
    | .context => .plain "ClientProxy"
  array := .plain "list"
  hub := .plain "Hub"
  interface := .plain "Protocol"
  enumeration := .within "enum" "Enum"
  hubName := "DoorHub"
  apiName := "DoorClient"

lemma apt_plainWording : plainWording.Apt where
  common c := by cases c <;> exact ⟨rfl, rfl⟩
  array := ⟨_, rfl, .cls (by decide)⟩
  hub := rfl
  interface := rfl
  enumeration := rfl

lemma fits_doorPlan (lock : String) : plainWording.Fits (doorPlan lock) := by
  have hnames : (doorPlan lock).names = ["Door", "Lock"] := rfl
  refine ⟨apt_plainWording, ?_, ⟨?_, rfl⟩, ?_, by decide, rfl⟩ <;> rw [hnames] <;> decide

end Doors

lemma sortImports_pair {first second : String} (hne : first ≠ second)
    (h : CSharp.importBefore first second = false) :
    CSharp.sortImports [first, second] = [second, first] := by
  have hdistinct : [first, second].eraseDups = [first, second] := by
    simp [List.eraseDups_cons, Ne.symm hne]
  rw [CSharp.sortImports, hdistinct]
  simp [List.mergeSort, List.MergeSort.Internal.splitInTwo, h]

/-- The model of a contract that was read. -/
def modelOf? (contract : Except ContractError Metadata) : Option ApiModel :=
  contract.toOption.bind fun m => (build {} m "Games" "Proxy" []).1.toOption

lemma exists_source {contract : Except ContractError Metadata} {imports : List String}
    (h : (modelOf? contract).map (·.imports) = some imports) :
    ∃ m, contract = .ok m ∧ (generate {} m "Games" "Proxy" []).1.toOption.map (·.text) =
      some (CSharp.emit ((modelOf? contract).getD default)) ∧
      ((modelOf? contract).getD default).imports = imports := by
  obtain ⟨model, hmodel, himports⟩ := Option.map_eq_some_iff.mp h
  obtain ⟨m, hm, hbuild⟩ := Option.bind_eq_some_iff.mp hmodel
  have hresult : (generate {} m "Games" "Proxy" []).1 =
      (build {} m "Games" "Proxy" []).1.map fun model => ⟨m.classes, model, CSharp.emit model⟩ := rfl
  refine ⟨m, eq_ok_of_toOption hm, ?_, by rw [hmodel, Option.getD_some, himports]⟩
  rw [hresult, eq_ok_of_toOption hbuild, hmodel]
  simp only [Except.map, Except.toOption, Option.map_some, Option.getD_some]

/-- What is read from the module and from the document. -/
def fromModule (lock : String) : Except ContractError Metadata :=
  ofDefinitions "doors" "doors" ((doorPlan lock).definitions plainWording)

def fromDocument (lock : String) : Except ContractError Metadata :=
  Contract.ofDocument (doorDocument lock) unnamedSource

lemma imports_private :
    (modelOf? (fromModule "__shut")).map (·.imports) =
        some ["Microsoft.AspNetCore.SignalR.Client", "System"] ∧
      (modelOf? (fromDocument "__shut")).map (·.imports) =
        some ["Microsoft.AspNetCore.SignalR.Client", "System"] := by
  decide +kernel

lemma emit_private_ne :
    CSharp.emit ((modelOf? (fromModule "__shut")).getD default) ≠
      CSharp.emit ((modelOf? (fromDocument "__shut")).getD default) := by
  obtain ⟨-, -, -, himports⟩ := exists_source imports_private.1
  obtain ⟨-, -, -, himports'⟩ := exists_source imports_private.2
  have hsorted : CSharp.sortImports ["Microsoft.AspNetCore.SignalR.Client", "System"] =
      ["System", "Microsoft.AspNetCore.SignalR.Client"] :=
    sortImports_pair (by decide) (by decide +kernel)
  simp only [CSharp.emit, CSharp.fileLines, CSharp.contentLines, CSharp.importLines, himports,
    himports', hsorted]
  decide +kernel

end HubProxy.Proofs
