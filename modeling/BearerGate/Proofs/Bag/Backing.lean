import BearerGate.Bag.Requests
import BearerGate.Proofs.Bag.Writes
import BearerGate.Proofs.Dict

/-!
# What a bag is kept in does not matter

A bag that keeps its contents and one that hands its writes to a segment answer the same requests in
the same way (`BagStore.backing_immaterial`). Both do what contents do that are changed by one
request after another (`BagContents.serve`), and of these it is plain what they are in the end: for
each slot, what the last request to it has written (`BagContents.ShowsLast`). So only the order of
requests to one slot counts, and requests whose value is dropped do not count at all.
-/

namespace BearerGate

/-- Whether a value is neither null nor made of parts. -/
def Json.isScalar : Json → Bool
  | .bool _ | .number _ | .string _ => true
  | .null | .array _ | .object _ => false

theorem Scalar.ofJson?_eq_none_iff {value : Json} :
    ofJson? value = none ↔ value.isScalar = false := by
  cases value with
  | number n =>
    cases n with
    | integer n => exact iff_of_false nofun nofun
    | double x => exact iff_of_false nofun nofun
  | bool b => exact iff_of_false nofun nofun
  | string s => exact iff_of_false nofun nofun
  | null => exact iff_of_true rfl rfl
  | array items => exact iff_of_true rfl rfl
  | object members => exact iff_of_true rfl rfl

/-! ## Contents and requests -/

/-- What a request writes. -/
def BagRequest.write? : BagRequest → Option BagWrite
  | .setUser user => some (.user user)
  | .annotate name value => (Scalar.ofJson? value).map (.annotated name)
  | .addMetadata name value => some (.metadata name value)
  | .showUser | .showAnnotations | .showMetadata => none

namespace BagContents

variable {contents other : BagContents}

/-- The contents after a request. -/
def afterRequest (contents : BagContents) (request : BagRequest) : BagContents :=
  request.write?.elim contents contents.after

/-- What is answered to a request. -/
def answer (contents : BagContents) : BagRequest → BagAnswer
  | .setUser _ | .annotate .. | .addMetadata .. => .done
  | .showUser => .user contents.user
  | .showAnnotations => .annotations contents.annotations
  | .showMetadata => .metadata contents.metadata

/-- What holders are told by contents that are changed by one request after another, and what the
contents are in the end. -/
def serve (contents : BagContents) :
    List (Nat × BagRequest) → List (Nat × BagAnswer) × BagContents
  | [] => ([], contents)
  | (holder, request) :: later =>
    let (answers, final) := (contents.afterRequest request).serve later
    ((holder, contents.answer request) :: answers, final)

theorem afterRequest_annotate (name : String) (value : Json) :
    contents.afterRequest (.annotate name value) =
      (Scalar.ofJson? value).elim contents fun scalar =>
        contents.after (.annotated name scalar) := by
  rw [afterRequest, BagRequest.write?]
  cases Scalar.ofJson? value with
  | none => rfl
  | some scalar => rfl

/-- A value that is no scalar changes nothing. -/
theorem afterRequest_dropped {name : String} {value : Json} (dropped : value.isScalar = false) :
    contents.afterRequest (.annotate name value) = contents := by
  rw [afterRequest_annotate, Scalar.ofJson?_eq_none_iff.mpr dropped]
  rfl

theorem user_afterRequest (request : BagRequest) :
    (contents.afterRequest request).user = request.user?.getD contents.user := by
  cases request with
  | annotate name value =>
    rw [afterRequest_annotate]
    cases Scalar.ofJson? value with
    | none => rfl
    | some scalar => rfl
  | _ => rfl

theorem annotations_afterRequest (request : BagRequest) (name : String) :
    (contents.afterRequest request).annotations.get? name =
      (request.annotated? name).or (contents.annotations.get? name) := by
  cases request with
  | annotate written value =>
    rw [afterRequest_annotate, BagRequest.annotated?]
    cases Scalar.ofJson? value with
    | none =>
      rw [ite_self]
      rfl
    | some scalar =>
      refine (annotations_after_annotated written scalar).trans ?_
      by_cases own : written = name
      · rw [if_pos own, if_pos own.symm]
        rfl
      · rw [if_neg own, if_neg (Ne.symm own)]
        rfl
  | _ => rfl

theorem metadata_afterRequest (request : BagRequest) (name : String) :
    (contents.afterRequest request).metadata.get? name =
      (request.metadata? name).or (contents.metadata.get? name) := by
  cases request with
  | annotate written value =>
    rw [afterRequest_annotate]
    cases Scalar.ofJson? value with
    | none => rfl
    | some scalar => rfl
  | addMetadata written value =>
    rw [BagRequest.metadata?]
    refine (contents.metadata.get?_insert written name value).trans ?_
    by_cases own : written = name
    · rw [if_pos own, if_pos own.symm]
      rfl
    · rw [if_neg own, if_neg (Ne.symm own)]
      rfl
  | _ => rfl

theorem serve_append (front back : List (Nat × BagRequest)) :
    contents.serve (front ++ back) =
      ((contents.serve front).1 ++ ((contents.serve front).2.serve back).1,
        ((contents.serve front).2.serve back).2) := by
  induction front generalizing contents with
  | nil => rfl
  | cons first front ih =>
    rw [List.cons_append, serve, ih]
    rfl

theorem length_serve (requests : List (Nat × BagRequest)) :
    (contents.serve requests).1.length = requests.length := by
  induction requests generalizing contents with
  | nil => rfl
  | cons first requests ih =>
    obtain ⟨holder, request⟩ := first
    exact congrArg Nat.succ ih

/-! ## The last write counts -/

/-- Contents that show, for each slot, what the last of the given requests to it has written. -/
structure ShowsLast (contents : BagContents) (requests : List BagRequest) : Prop where
  user : contents.user = ((requests.filterMap BagRequest.user?).getLast?).getD ""
  annotations : ∀ name,
    contents.annotations.get? name = (requests.filterMap (BagRequest.annotated? name)).getLast?
  metadata : ∀ name,
    contents.metadata.get? name = (requests.filterMap (BagRequest.metadata? name)).getLast?

end BagContents

theorem getLast?_filterMap_concat {α β : Type} (f : α → Option β) (earlier : List α) (last : α) :
    ((earlier ++ [last]).filterMap f).getLast? = (f last).or (earlier.filterMap f).getLast? := by
  rw [List.filterMap_append, List.getLast?_append, List.filterMap_cons]
  cases f last with
  | none => rfl
  | some written => rfl

namespace BagContents

variable {contents other : BagContents} {requests : List BagRequest}

theorem showsLast_empty : BagContents.empty.ShowsLast [] :=
  ⟨rfl, fun _ => rfl, fun _ => rfl⟩

theorem ShowsLast.afterRequest (shows : contents.ShowsLast requests) (request : BagRequest) :
    (contents.afterRequest request).ShowsLast (requests ++ [request]) where
  user := by
    rw [user_afterRequest, getLast?_filterMap_concat, shows.user]
    cases request.user? with
    | none => rfl
    | some user => rfl
  annotations name := by
    rw [annotations_afterRequest, getLast?_filterMap_concat, shows.annotations]
  metadata name := by
    rw [metadata_afterRequest, getLast?_filterMap_concat, shows.metadata]

theorem ShowsLast.serve (shows : contents.ShowsLast requests) (later : List (Nat × BagRequest)) :
    (contents.serve later).2.ShowsLast (requests ++ later.map (·.2)) := by
  induction later generalizing contents requests with
  | nil =>
    rw [List.map_nil, List.append_nil]
    exact shows
  | cons next later ih =>
    obtain ⟨holder, request⟩ := next
    have after := ih (shows.afterRequest request)
    rw [List.append_assoc] at after
    exact after

theorem showsLast_serve (requests : List (Nat × BagRequest)) :
    (BagContents.empty.serve requests).2.ShowsLast (requests.map (·.2)) :=
  showsLast_empty.serve requests

/-- There is one way to show the last writes. -/
theorem ShowsLast.unique (shows : contents.ShowsLast requests)
    (shows' : other.ShowsLast requests) : contents = other := by
  obtain ⟨user, annotations, metadata⟩ := contents
  obtain ⟨user', annotations', metadata'⟩ := other
  have users : user = user' := shows.user.trans shows'.user.symm
  have annotated : annotations = annotations' :=
    Dict.ext_get? fun name => (shows.annotations name).trans (shows'.annotations name).symm
  have described : metadata = metadata' :=
    Dict.ext_get? fun name => (shows.metadata name).trans (shows'.metadata name).symm
  rw [users, annotated, described]

end BagContents

namespace BagRequest

/-- The requests that write to a slot. -/
def writesTo (slot : BagSlot) (requests : List BagRequest) : List BagRequest :=
  requests.filter fun request => request.slot? = some slot

variable {requests others : List BagRequest}

theorem slot?_of_user? {request : BagRequest} {user : String} (sets : request.user? = some user) :
    request.slot? = some .user := by
  cases request with
  | setUser user => rfl
  | _ => cases sets

theorem slot?_of_annotated? {request : BagRequest} {name : String} {scalar : Scalar}
    (writes : request.annotated? name = some scalar) :
    request.slot? = some (.annotated name) := by
  cases request with
  | annotate written value =>
    obtain ⟨rfl, known⟩ := Option.ite_none_right_eq_some.mp writes
    exact congrArg (Option.map fun _ => BagSlot.annotated written) known
  | _ => cases writes

theorem slot?_of_metadata? {request : BagRequest} {name : String} {value : Json}
    (writes : request.metadata? name = some value) : request.slot? = some (.metadata name) := by
  cases request with
  | addMetadata written value =>
    obtain ⟨rfl, -⟩ := Option.ite_none_right_eq_some.mp writes
    rfl
  | _ => cases writes

/-- What is written to a slot is told by the requests that write to it. -/
theorem filterMap_writesTo {β : Type} {slot : BagSlot} {f : BagRequest → Option β}
    (within : ∀ request written, f request = some written → request.slot? = some slot)
    (requests : List BagRequest) : (writesTo slot requests).filterMap f = requests.filterMap f := by
  unfold writesTo
  rw [List.filterMap_filter]
  congr 1
  funext request
  cases found : f request with
  | none => exact ite_self none
  | some written => exact if_pos (decide_eq_true (within request written found))

theorem filterMap_congr_of_writesTo {β : Type} {slot : BagSlot} {f : BagRequest → Option β}
    (within : ∀ request written, f request = some written → request.slot? = some slot)
    (same : writesTo slot others = writesTo slot requests) :
    others.filterMap f = requests.filterMap f := by
  rw [← filterMap_writesTo within others, same, filterMap_writesTo within requests]

/-- Only the order of requests to one slot counts. -/
theorem showsLast_congr {contents : BagContents} (shows : contents.ShowsLast others)
    (same : ∀ slot, writesTo slot others = writesTo slot requests) :
    contents.ShowsLast requests where
  user := by
    rw [← filterMap_congr_of_writesTo (fun _ _ => slot?_of_user?) (same .user)]
    exact shows.user
  annotations name := by
    rw [← filterMap_congr_of_writesTo (fun _ _ => slot?_of_annotated?) (same (.annotated name))]
    exact shows.annotations name
  metadata name := by
    rw [← filterMap_congr_of_writesTo (fun _ _ => slot?_of_metadata?) (same (.metadata name))]
    exact shows.metadata name

end BagRequest

/-! ## Bags and requests -/

namespace BagStore

variable {store : BagStore} {bag other : BagRef}

theorem annotate_eq (bag : BagRef) (name : String) (value : Json) :
    store.annotate bag name value =
      ((Scalar.ofJson? value).map (.annotated name)).elim store (store.write bag) := by
  unfold annotate
  cases Scalar.ofJson? value with
  | none => rfl
  | some scalar => rfl

theorem handle_snd (bag : BagRef) (request : BagRequest) :
    (store.handle bag request).2 = request.write?.elim store (store.write bag) := by
  cases request with
  | annotate name value => exact annotate_eq bag name value
  | _ => rfl

theorem handle_fst (bag : BagRef) (request : BagRequest) :
    (store.handle bag request).1 = (store.contents bag).answer request := by
  cases request with
  | _ => rfl

theorem handle_has (has : store.Has other) (request : BagRequest) :
    (store.handle bag request).2.Has other := by
  rw [handle_snd]
  cases request.write? with
  | none => exact has
  | some write => exact write_has has

theorem contents_handle_self (has : store.Has bag) (request : BagRequest) :
    (store.handle bag request).2.contents bag = (store.contents bag).afterRequest request := by
  rw [handle_snd]
  unfold BagContents.afterRequest
  cases request.write? with
  | none => rfl
  | some write => exact contents_write_self has write

theorem contents_handle_of_ne (away : other ≠ bag) (request : BagRequest) :
    (store.handle bag request).2.contents other = store.contents other := by
  rw [handle_snd]
  cases request.write? with
  | none => rfl
  | some write => exact contents_write_of_ne away write

/-- A bag does to requests what its contents do. -/
theorem handleAll_serve (has : store.Has bag) (requests : List (Nat × BagRequest)) :
    ((store.handleAll bag requests).1, (store.handleAll bag requests).2.contents bag) =
      (store.contents bag).serve requests := by
  induction requests generalizing store with
  | nil => rfl
  | cons first later ih =>
    obtain ⟨holder, request⟩ := first
    have kept : (store.handle bag request).2.Has bag := handle_has has request
    have rest := ih kept
    rw [contents_handle_self has] at rest
    rw [handleAll, BagContents.serve, ← rest, ← handle_fst]

/-- Whether nothing was written to what a new bag would be kept in. -/
def IsFresh (store : BagStore) (backing : Option Segment) : Prop :=
  ∀ segment, backing = some segment → store.handedTo segment = []

theorem contents_attach_fresh {backing : Option Segment} (fresh : store.IsFresh backing) :
    (store.attach backing).2.contents (store.attach backing).1 = .empty := by
  rw [contents_attach]
  cases backing with
  | none => exact List.getD_eq_default _ _ (Nat.le_refl _)
  | some segment => exact congrArg BagWrite.contents (fresh segment rfl)

theorem serveHolders_eq {backing : Option Segment} (fresh : store.IsFresh backing)
    (requests : List (Nat × BagRequest)) :
    store.serveHolders backing requests = BagContents.empty.serve requests := by
  rw [← contents_attach_fresh fresh]
  exact handleAll_serve (store.attach_has backing) requests

/-- A bag that stands alone and one with a fresh segment tell their holders the same and hold the
same in the end. Every answer and the end show the last writes; a value that is no scalar leaves no
trace but the answer to whoever has written it; and it is the order of the writes to each slot that
counts. -/
theorem backing_immaterial {backing : Option Segment} (fresh : store.IsFresh backing)
    (requests : List (Nat × BagRequest)) :
    store.serveHolders backing requests = store.serveHolders none requests ∧
      (∀ front holder request back, requests = front ++ (holder, request) :: back →
        ∃ contents : BagContents, contents.ShowsLast (front.map (·.2)) ∧
          (store.serveHolders backing requests).1[front.length]? =
            some (holder, contents.answer request)) ∧
      (store.serveHolders backing requests).2.ShowsLast (requests.map (·.2)) ∧
      (∀ front holder name value back,
        requests = front ++ (holder, .annotate name value) :: back → value.isScalar = false →
          store.serveHolders backing (front ++ back) =
            ((store.serveHolders backing requests).1.eraseIdx front.length,
              (store.serveHolders backing requests).2)) ∧
      ∀ others : List (Nat × BagRequest),
        (∀ slot, BagRequest.writesTo slot (others.map (·.2)) =
          BagRequest.writesTo slot (requests.map (·.2))) →
            (store.serveHolders backing others).2 = (store.serveHolders backing requests).2 := by
  have alone : store.IsFresh none := nofun
  refine ⟨(serveHolders_eq fresh requests).trans (serveHolders_eq alone requests).symm, ?_⟩
  simp only [serveHolders_eq fresh]
  refine ⟨?_, BagContents.showsLast_serve requests, ?_, ?_⟩
  · rintro front holder request back rfl
    refine ⟨(BagContents.empty.serve front).2, BagContents.showsLast_serve front, ?_⟩
    rw [BagContents.serve_append, BagContents.serve, List.getElem?_append_right
      (Nat.le_of_eq (BagContents.length_serve front)), BagContents.length_serve, Nat.sub_self]
    rfl
  · rintro front holder name value back rfl dropped
    rw [BagContents.serve_append, BagContents.serve_append, BagContents.serve,
      BagContents.afterRequest_dropped dropped, List.eraseIdx_append_of_length_le
      (Nat.le_of_eq (BagContents.length_serve front)), BagContents.length_serve, Nat.sub_self]
    rfl
  · intro others same
    exact (BagRequest.showsLast_congr (BagContents.showsLast_serve others) same).unique
      (BagContents.showsLast_serve requests)

/-- Three holders, of whom one writes a list as an annotation. -/
def threeHolders : List (Nat × BagRequest) :=
  [(0, .annotate "tries" (.int 1)), (1, .annotate "tries" (.array [])), (2, .showAnnotations),
    (1, .setUser "agent"), (0, .annotate "tries" (.int 2))]

/-- The same without the list, and with the user set before anything else. -/
def threeHoldersReordered : List (Nat × BagRequest) :=
  [(1, .setUser "agent"), (0, .annotate "tries" (.int 1)), (2, .showAnnotations),
    (0, .annotate "tries" (.int 2))]

theorem backing_immaterial_threeHolders :
    (BagStore.new fun _ => "id").IsFresh (some ⟨0, "trace"⟩) ∧
      (BagStore.new fun _ => "id").serveHolders (some ⟨0, "trace"⟩) threeHolders =
        (BagStore.new fun _ => "id").serveHolders none threeHolders ∧
      (BagStore.new fun _ => "id").serveHolders (some ⟨0, "trace"⟩) (threeHolders.eraseIdx 1) =
        (((BagStore.new fun _ => "id").serveHolders (some ⟨0, "trace"⟩) threeHolders).1.eraseIdx 1,
          ((BagStore.new fun _ => "id").serveHolders (some ⟨0, "trace"⟩) threeHolders).2) ∧
      ((BagStore.new fun _ => "id").serveHolders (some ⟨0, "trace"⟩) threeHoldersReordered).2 =
        ((BagStore.new fun _ => "id").serveHolders (some ⟨0, "trace"⟩) threeHolders).2 := by
  have fresh : (BagStore.new fun _ => "id").IsFresh (some ⟨0, "trace"⟩) := fun _ _ => rfl
  obtain ⟨alike, -, -, dropped, reordered⟩ := backing_immaterial fresh threeHolders
  refine ⟨fresh, alike, dropped [_] 1 "tries" (.array []) _ rfl rfl, reordered _ fun slot => ?_⟩
  cases slot with
  | user => rfl
  | annotated name => by_cases own : "tries" = name <;> simp [BagRequest.writesTo, threeHolders,
      threeHoldersReordered, BagRequest.slot?, Scalar.ofJson?, Json.int, own]
  | metadata name => simp [BagRequest.writesTo, threeHolders, threeHoldersReordered,
      BagRequest.slot?, Scalar.ofJson?, Json.int]

end BagStore

end BearerGate
