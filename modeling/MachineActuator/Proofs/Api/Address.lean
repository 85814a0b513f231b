import Mathlib
import MachineActuator.Api.Call
import MachineActuator.Proofs.Machine.Derivation

/-! # Requests as the API server reads them

The address of a request is made of names as they are.  A name that is one segment of a path
(`Uri.IsSegment`) stands in an address for itself: the request can be sent, and its path has the
segments that it was made of (`segments?_slashed`).  The API server reads a request by its method,
its path and its body (`InfraCall.ofRequest?`), and what it reads is the call that was meant
(`InfraCall.ofRequest?_request`). -/

namespace MachineActuator

/-! ### Segments -/

namespace Uri

/-- Whether a character stands for itself in a segment of a path. -/
def isSegmentCharacter (c : Char) : Bool :=
  isPathCharacter c && c ≠ '/' && c ≠ '?' && c ≠ '#' && c ≠ '%'

/-- The text is one segment of a path as it stands. -/
def IsSegment (text : String) : Prop := text.toList.all isSegmentCharacter = true

instance (text : String) : Decidable (IsSegment text) := inferInstanceAs (Decidable (_ = true))

theorem IsSegment.of_mem {text : String} (h : IsSegment text) {c : Char} (hc : c ∈ text.toList) :
    isPathCharacter c = true ∧ c ≠ '/' ∧ c ≠ '?' ∧ c ≠ '#' ∧ c ≠ '%' := by
  have hcharacter : isSegmentCharacter c = true := List.all_eq_true.mp h c hc
  unfold isSegmentCharacter at hcharacter
  simpa [and_assoc] using hcharacter

/-- The path is made of characters that stand for themselves, and ends at no mark. -/
structure IsPath (path : String) : Prop where
  rooted : ∃ rest, path.toList = '/' :: rest
  plain : ∀ c ∈ path.toList, isPathCharacter c = true ∧ c ≠ '?' ∧ c ≠ '#'

variable {path : String}

theorem splitAt_path (h : IsPath path) {rest : List Char} (hrest : rest = [] ∨ rest = ['?']) :
    splitAt (fun c => c = '?' || c = '#') (path.toList ++ rest) = (path.toList, rest) := by
  have hplain : ∀ c ∈ path.toList, (!(decide (c = '?') || decide (c = '#'))) = true := by
    intro c hc
    simp [(h.plain c hc).2.1, (h.plain c hc).2.2]
  unfold splitAt
  rw [List.span_eq_takeWhile_dropWhile, List.takeWhile_append_of_pos hplain,
    List.dropWhile_append_of_pos hplain]
  obtain rfl | rfl := hrest
  · simp
  · simp

theorem readPath_path (h : IsPath path) {rest : List Char} (hrest : rest = [] ∨ rest = ['?']) :
    readPath "" "" (path.toList ++ rest) = .ok { path } := by
  have hall : path.toList.all isPathCharacter = true :=
    List.all_eq_true.mpr fun c hc => (h.plain c hc).1
  obtain ⟨tail, htail⟩ := h.rooted
  have hempty : path.toList.isEmpty = false := by rw [htail]; rfl
  unfold readPath
  rw [splitAt_path h hrest]
  dsimp only
  rw [hall, hempty, String.ofList_toList]
  obtain rfl | rfl := hrest
  · rfl
  · rfl

/-- An address that is a path, with or without a mark behind it, is read as this path. -/
theorem read_path (h : IsPath path) {mark : String} (hmark : mark = "" ∨ mark = "?")
    (hlength : (path ++ mark).utf8ByteSize ≤ maxLength) : read (path ++ mark) = .ok { path } := by
  have hrest : mark.toList = [] ∨ mark.toList = ['?'] := by
    obtain rfl | rfl := hmark
    · exact .inl rfl
    · exact .inr rfl
  have hread := readPath_path h hrest
  obtain ⟨tail, htail⟩ := h.rooted
  rw [htail, List.cons_append] at hread
  have hchars : (path ++ mark).toList = '/' :: (tail ++ mark.toList) := by
    rw [String.toList_append, htail, List.cons_append]
  unfold read
  rw [if_neg (Nat.not_lt.mpr hlength), hchars]
  exact hread

end Uri

namespace Api

open Uri (IsSegment IsPath)

/-- The path with these segments. -/
def slashed : List String → String
  | [] => ""
  | segment :: rest => "/" ++ segment ++ slashed rest

/-- The segments of a path; one with escapes is not read. -/
def segments? (path : String) : Option (List String) :=
  if '%' ∈ path.toList then none
  else
    match (path.toList.splitOn '/').map String.ofList with
    | "" :: segments => some segments
    | _ => none

theorem toList_slashed (segments : List String) :
    (slashed segments).toList = segments.flatMap fun s => '/' :: s.toList := by
  induction segments with
  | nil => rfl
  | cons s rest ih =>
    unfold slashed
    rw [String.toList_append, String.toList_append, ih]
    rfl

theorem toList_slashed_eq_intercalate (segments : List String) :
    (slashed segments).toList = ['/'].intercalate ([] :: segments.map String.toList) := by
  rw [toList_slashed]
  induction segments with
  | nil => rfl
  | cons s rest ih =>
    cases rest with
    | nil => simp [List.intercalate]
    | cons t rest =>
      simp only [List.flatMap_cons, List.map_cons, List.intercalate_cons_cons] at ih ⊢
      rw [ih]
      simp

variable {segments : List String}

theorem exists_of_mem_slashed {c : Char} (h : c ∈ (slashed segments).toList) :
    c = '/' ∨ ∃ s ∈ segments, c ∈ s.toList := by
  rw [toList_slashed] at h
  obtain ⟨s, hs, hc⟩ := List.mem_flatMap.mp h
  obtain rfl | hc := List.mem_cons.mp hc
  · exact .inl rfl
  · exact .inr ⟨s, hs, hc⟩

theorem isPath_slashed (hsegments : ∀ s ∈ segments, IsSegment s) (hne : segments ≠ []) :
    IsPath (slashed segments) where
  rooted := by
    obtain ⟨s, rest, rfl⟩ := List.exists_cons_of_ne_nil hne
    rw [toList_slashed]
    exact ⟨_, rfl⟩
  plain := by
    intro c hc
    obtain rfl | ⟨s, hs, hc⟩ := exists_of_mem_slashed hc
    · decide
    · obtain ⟨hpath, -, hquestion, hhash, -⟩ := (hsegments s hs).of_mem hc
      exact ⟨hpath, hquestion, hhash⟩

theorem segments?_slashed (hsegments : ∀ s ∈ segments, IsSegment s) :
    segments? (slashed segments) = some segments := by
  have hescape : '%' ∉ (slashed segments).toList := by
    intro h
    obtain h | ⟨s, hs, h⟩ := exists_of_mem_slashed h
    · simp at h
    · exact ((hsegments s hs).of_mem h).2.2.2.2 rfl
  have hslash : ∀ l ∈ ([] :: segments.map String.toList), '/' ∉ l := by
    intro l hl
    obtain rfl | hl := List.mem_cons.mp hl
    · exact List.not_mem_nil
    · obtain ⟨s, hs, rfl⟩ := List.mem_map.mp hl
      exact fun h => ((hsegments s hs).of_mem h).2.1 rfl
  unfold segments?
  rw [if_neg hescape, toList_slashed_eq_intercalate,
    List.splitOn_intercalate '/' hslash (by simp), List.map_cons, List.map_map]
  have hid : segments.map (String.ofList ∘ String.toList) = segments := by
    refine (List.map_congr_left fun s _ => ?_).trans (List.map_id _)
    exact String.ofList_toList
  rw [hid]
  rfl

theorem slashed_append_segment (segments : List String) (name : String) :
    slashed segments ++ "/" ++ name = slashed (segments ++ [name]) := by
  apply String.toList_injective
  simp [toList_slashed]

theorem infraPath_eq (ns resource : String) :
    infraPath ns resource =
      slashed ["apis", "kubevirt.io", "v1alpha3", "namespaces", ns, resource] := by
  apply String.toList_injective
  rw [toList_slashed]
  unfold infraPath
  simp only [String.toList_append]
  simp [List.flatMap_cons]

theorem corePath_eq (ns resource : String) :
    corePath ns resource = slashed ["api", "v1", "namespaces", ns, resource] := by
  apply String.toList_injective
  rw [toList_slashed]
  unfold corePath
  simp only [String.toList_append]
  simp [List.flatMap_cons]

/-- A request to an address of plain segments can be sent. -/
theorem Request.to_slashed (hsegments : ∀ s ∈ segments, IsSegment s) (hne : segments ≠ [])
    {mark : String} (hmark : mark = "" ∨ mark = "?")
    (hlength : (slashed segments ++ mark).utf8ByteSize ≤ Uri.maxLength) (method : Method)
    (body : Option (ContentType × Json)) :
    Request.to method (slashed segments ++ mark) body =
      .ok { method, path := slashed segments, body } := by
  unfold Request.to
  rw [Uri.read_path (isPath_slashed hsegments hne) hmark hlength]

/-! ### Places -/

/-- The groups of the API that are asked for. -/
inductive Group where
  | core
  | kubevirt
deriving DecidableEq

/-- All objects of a kind in a namespace, or the one of a name. -/
structure Place where
  group : Group
  ns : String
  resource : String
  name : Option String
deriving DecidableEq

/-- The place that a path leads to. -/
def place? (path : String) : Option Place :=
  match segments? path with
  | some ["api", "v1", "namespaces", ns, resource] => some ⟨.core, ns, resource, none⟩
  | some ["apis", "kubevirt.io", "v1alpha3", "namespaces", ns, resource] =>
    some ⟨.kubevirt, ns, resource, none⟩
  | some ["apis", "kubevirt.io", "v1alpha3", "namespaces", ns, resource, name] =>
    some ⟨.kubevirt, ns, resource, some name⟩
  | _ => none

section Places

variable {ns resource name : String}

theorem isSegment_infra (hns : IsSegment ns) (hresource : IsSegment resource) :
    ∀ s ∈ ["apis", "kubevirt.io", "v1alpha3", "namespaces", ns, resource], IsSegment s := by
  simp only [List.forall_mem_cons]
  exact ⟨by decide +kernel, by decide +kernel, by decide +kernel, by decide +kernel, hns, hresource,
    by simp⟩

theorem isSegment_infra_append (hns : IsSegment ns) (hresource : IsSegment resource)
    (hname : IsSegment name) :
    ∀ s ∈ ["apis", "kubevirt.io", "v1alpha3", "namespaces", ns, resource] ++ [name],
      IsSegment s :=
  List.forall_mem_append.mpr ⟨isSegment_infra hns hresource, List.forall_mem_singleton.mpr hname⟩

theorem isSegment_core (hns : IsSegment ns) (hresource : IsSegment resource) :
    ∀ s ∈ ["api", "v1", "namespaces", ns, resource], IsSegment s := by
  simp only [List.forall_mem_cons]
  exact ⟨by decide +kernel, by decide +kernel, by decide +kernel, hns, hresource, by simp⟩

theorem place?_infraPath (hns : IsSegment ns) (hresource : IsSegment resource) :
    place? (infraPath ns resource) = some ⟨.kubevirt, ns, resource, none⟩ := by
  unfold place?
  rw [infraPath_eq, segments?_slashed (isSegment_infra hns hresource)]
  rfl

theorem place?_infraPath_append (hns : IsSegment ns) (hresource : IsSegment resource)
    (hname : IsSegment name) :
    place? (infraPath ns resource ++ "/" ++ name) = some ⟨.kubevirt, ns, resource, some name⟩ := by
  unfold place?
  rw [infraPath_eq, slashed_append_segment,
    segments?_slashed (isSegment_infra_append hns hresource hname)]
  rfl

theorem place?_corePath (hns : IsSegment ns) (hresource : IsSegment resource) :
    place? (corePath ns resource) = some ⟨.core, ns, resource, none⟩ := by
  unfold place?
  rw [corePath_eq, segments?_slashed (isSegment_core hns hresource)]
  rfl

end Places

/-! ### Requests for a virtual machine -/

/-- The address of a virtual machine of this name is made of plain segments. -/
structure Addressable (ns name : String) : Prop where
  isSegment_ns : IsSegment ns
  isSegment_name : IsSegment name
  nonempty : name ≠ ""
  length : (infraPath ns "virtualmachineinstances" ++ "/" ++ name).utf8ByteSize ≤ Uri.maxLength

namespace Addressable

variable {ns name resource mark : String}

theorem objectAddress_eq (h : Addressable ns name) (objects : String) :
    objectAddress objects name = .ok (objects ++ "/" ++ name) := by
  have hempty : name.isEmpty = false := by simpa using h.nonempty
  unfold objectAddress
  rw [hempty]
  rfl

theorem to_object (h : Addressable ns name) (hresource : IsSegment resource)
    (hmark : mark = "" ∨ mark = "?")
    (hsize : (resource ++ mark).utf8ByteSize ≤ "virtualmachineinstances".utf8ByteSize)
    (method : Method) (body : Option (ContentType × Json)) :
    Request.to method (infraPath ns resource ++ "/" ++ name ++ mark) body =
      .ok { method, path := infraPath ns resource ++ "/" ++ name, body } := by
  have hlength : (infraPath ns resource ++ "/" ++ name ++ mark).utf8ByteSize ≤ Uri.maxLength := by
    have hlongest := h.length
    unfold infraPath at hlongest ⊢
    simp only [String.utf8ByteSize_append] at hsize hlongest ⊢
    omega
  rw [infraPath_eq, slashed_append_segment] at hlength ⊢
  exact Request.to_slashed
    (isSegment_infra_append h.isSegment_ns hresource h.isSegment_name) (by simp) hmark hlength _ _

theorem get_eq (h : Addressable ns name) (hresource : IsSegment resource)
    (hsize : resource.utf8ByteSize ≤ "virtualmachineinstances".utf8ByteSize) :
    Request.get (infraPath ns resource) name =
      .ok { method := .get, path := infraPath ns resource ++ "/" ++ name } := by
  have hto := h.to_object hresource (.inl rfl) (by simpa using hsize) .get none
  rw [String.append_empty] at hto
  unfold Request.get
  rw [h.objectAddress_eq]
  exact hto

theorem replace_eq (h : Addressable ns name) (body : Json) :
    Request.replace (infraPath ns "virtualmachines") name body =
      .ok { method := .put
            path := infraPath ns "virtualmachines" ++ "/" ++ name
            body := some (.object, body) } := by
  unfold Request.replace
  rw [h.objectAddress_eq]
  exact h.to_object (by decide +kernel) (.inr rfl) (by decide) .put _

theorem delete_eq (h : Addressable ns name) (grace : Nat) :
    Request.delete (infraPath ns "virtualmachines") name (some grace) =
      .ok { method := .delete
            path := infraPath ns "virtualmachines" ++ "/" ++ name
            body := some (.object,
              .ofFields [("gracePeriodSeconds", some (.num (.int grace)))]) } := by
  unfold Request.delete
  rw [h.objectAddress_eq]
  exact h.to_object (by decide +kernel) (.inr rfl) (by decide) .delete _

theorem to_virtualMachines (h : Addressable ns name) (body : Option (ContentType × Json)) :
    Request.to .post (infraPath ns "virtualmachines" ++ "?") body =
      .ok { method := .post, path := infraPath ns "virtualmachines", body } := by
  have hlength : (infraPath ns "virtualmachines" ++ "?").utf8ByteSize ≤ Uri.maxLength := by
    have hlongest := h.length
    have hsize : ("virtualmachines" ++ "?").utf8ByteSize ≤
      "virtualmachineinstances".utf8ByteSize := by decide
    unfold infraPath at hlongest ⊢
    simp only [String.utf8ByteSize_append] at hsize hlongest ⊢
    omega
  rw [infraPath_eq] at hlength ⊢
  exact Request.to_slashed (isSegment_infra h.isSegment_ns (by decide +kernel)) (by simp)
    (.inr rfl) hlength _ _

theorem to_secrets (h : Addressable ns name) (body : Option (ContentType × Json)) :
    Request.to .post (corePath ns "secrets" ++ "?") body =
      .ok { method := .post, path := corePath ns "secrets", body } := by
  have hlength : (corePath ns "secrets" ++ "?").utf8ByteSize ≤ Uri.maxLength := by
    have hlongest := h.length
    have hsize : ("/api/v1/namespaces/" ++ "/" ++ "secrets" ++ "?").utf8ByteSize ≤
      ("/apis/kubevirt.io/v1alpha3/namespaces/" ++ "/" ++ "virtualmachineinstances").utf8ByteSize :=
      by decide
    unfold infraPath at hlongest
    unfold corePath
    simp only [String.utf8ByteSize_append] at hsize hlongest ⊢
    omega
  rw [corePath_eq] at hlength ⊢
  exact Request.to_slashed (isSegment_core h.isSegment_ns (by decide +kernel)) (by simp)
    (.inr rfl) hlength _ _

end Addressable

end Api

open Api

namespace InfraCall

/-- The call that a request asks for. -/
def ofRequest? (r : Request) : Option InfraCall :=
  match r.method, r.query, place? r.path, r.body with
  | .post, "", some ⟨.kubevirt, ns, "virtualmachines", none⟩, some (.object, body) =>
    (VirtualMachine.ofJson? body).map (.createVirtualMachine ns)
  | .get, "", some ⟨.kubevirt, ns, "virtualmachines", some name⟩, none =>
    some (.getVirtualMachine ns name)
  | .put, "", some ⟨.kubevirt, ns, "virtualmachines", some name⟩, some (.object, body) => do
    let vm ← VirtualMachine.ofJson? body
    if vm.metadata.name = some name then some (.updateVirtualMachine ns vm) else none
  | .delete, "", some ⟨.kubevirt, ns, "virtualmachines", some name⟩, some (.object, body) =>
    (body.get? "gracePeriodSeconds" >>= Json.nat? 32).map (.deleteVirtualMachine ns name)
  | .get, "", some ⟨.kubevirt, ns, "virtualmachineinstances", some name⟩, none =>
    some (.getInstance ns name)
  | .post, "", some ⟨.core, ns, "secrets", none⟩, some (.object, body) =>
    (Secret.ofJson? body).map (.createSecret ns)
  | _, _, _, _ => none

/-- The call is about the virtual machine of this name, and sends what a client sets. -/
def Sendable (ns name : String) : InfraCall → Prop
  | createVirtualMachine n vm =>
    n = ns ∧ vm.metadata.name = some name ∧ vm.SetByClient
  | getVirtualMachine n m => n = ns ∧ m = name
  | updateVirtualMachine n vm =>
    n = ns ∧ vm.metadata.name = some name ∧ vm.SetByClient
  | deleteVirtualMachine n m grace => n = ns ∧ m = name ∧ grace < 2 ^ 32
  | getInstance n m => n = ns ∧ m = name
  | createSecret n secret => n = ns ∧ secret.metadata.SetByClient

variable {ns name : String}

/-- A call about a virtual machine with a plain address can be sent, and the API server reads it
for what it is. -/
theorem ofRequest?_request (h : Addressable ns name) {call : InfraCall}
    (hcall : call.Sendable ns name) :
    ∃ r, call.request = .ok r ∧ ofRequest? r.received = some call := by
  have hvms : Uri.IsSegment "virtualmachines" := by decide +kernel
  have hinstances : Uri.IsSegment "virtualmachineinstances" := by decide +kernel
  have hsecrets : Uri.IsSegment "secrets" := by decide +kernel
  have hplace := place?_infraPath_append h.isSegment_ns hvms h.isSegment_name
  cases call with
  | createVirtualMachine n vm =>
    obtain ⟨rfl, -, hvm⟩ := hcall
    refine ⟨_, congrArg orNotSent (h.to_virtualMachines _), ?_⟩
    unfold ofRequest?
    simp only [Request.received, place?_infraPath h.isSegment_ns hvms,
      hvm.comesThrough.read_sent, Option.map]
  | getVirtualMachine n m =>
    obtain ⟨rfl, rfl⟩ := hcall
    refine ⟨_, congrArg orNotSent (h.get_eq hvms (by decide)), ?_⟩
    unfold ofRequest?
    simp only [Request.received, hplace, Option.map]
  | updateVirtualMachine n vm =>
    obtain ⟨rfl, hname, hvm⟩ := hcall
    have hrequest : (updateVirtualMachine n vm).request =
        orNotSent (Request.replace (infraPath n "virtualmachines") name vm.toJson) := by
      simp only [request, hname]
    refine ⟨_, hrequest.trans (congrArg orNotSent (h.replace_eq _)), ?_⟩
    unfold ofRequest?
    simp only [Request.received, hplace, Option.map]
    refine (bind_of_eq_some hvm.comesThrough.read_sent).trans ?_
    exact if_pos hname
  | deleteVirtualMachine n m grace =>
    obtain ⟨rfl, rfl, hgrace⟩ := hcall
    refine ⟨_, congrArg orNotSent (h.delete_eq _), ?_⟩
    unfold ofRequest?
    simp only [Request.received, hplace, Option.map_some]
    have hread : ((Json.ofFields [("gracePeriodSeconds", some (.num (.int grace)))]).sent.get?
        "gracePeriodSeconds" >>= Json.nat? 32) = some grace :=
      (bind_of_eq_some (a := Json.num (.int grace)) rfl).trans (Json.nat?_of_lt hgrace)
    exact congrArg (Option.map _) hread
  | getInstance n m =>
    obtain ⟨rfl, rfl⟩ := hcall
    refine ⟨_, congrArg orNotSent (h.get_eq hinstances (by decide)), ?_⟩
    unfold ofRequest?
    simp only [Request.received,
      place?_infraPath_append h.isSegment_ns hinstances h.isSegment_name, Option.map]
  | createSecret n secret =>
    obtain ⟨rfl, hsecret⟩ := hcall
    refine ⟨_, congrArg orNotSent (h.to_secrets _), ?_⟩
    unfold ofRequest?
    simp only [Request.received, place?_corePath h.isSegment_ns hsecrets,
      (Secret.comesThrough hsecret).read_sent, Option.map]

end InfraCall

end MachineActuator
