/-
**Whose endpoints FTDI discovery takes.**

The loop attributes an endpoint descriptor to the selected interface by the number and the alternate
setting of the interface descriptor before it, not by its place. So a later interface descriptor of
another class that repeats them adds its endpoints to the selected interface's.

* `attributed`: the endpoint descriptors that the loop takes for the selected interface's.
* `searchFrom_selected`: a search that returns has accepted just these.
* `ownEndpoints_iff`: both endpoints are the selected interface's own exactly when no repeated
  descriptor has one.
-/

import PioUsbHost.Ftdi.Discovery
import PioUsbHost.Usb.Directions
import PioUsbHost.Usb.Framing
import PioUsbHost.Usb.SectionOfPass

namespace PioUsbHost.Ftdi

open PioUsbHost.Lib.Panic PioUsbHost.Usb

/-! ### The selected interface -/

/-- A nine-byte vendor interface descriptor with alternate setting 0 that matches the request. -/
def Wanted (requested : Option UInt8) (descriptor : List UInt8) : Prop :=
  IsInterface descriptor ∧ descriptor.length = 9 ∧ descriptor[3]? = some 0 ∧
    descriptor[5]? = some ftdiInterfaceClass ∧ ∀ number ∈ requested, descriptor[2]? = some number

instance (requested : Option UInt8) (descriptor : List UInt8) :
    Decidable (Wanted requested descriptor) :=
  letI : Decidable (∀ number ∈ requested, descriptor[2]? = some number) :=
    Option.decidableForallMem requested
  inferInstanceAs (Decidable (_ ∧ _))

/-- `head` is the first wanted descriptor of the configuration, and `tail` follows it. -/
def FirstWanted (bytes : List UInt8) (requested : Option UInt8) (head : List UInt8)
    (tail : List (List UInt8)) : Prop :=
  ∃ before, descriptorsOf bytes = before ++ head :: tail ∧ Wanted requested head ∧
    ∀ descriptor ∈ before, ¬ Wanted requested descriptor

/-- A bulk endpoint of the direction, as the driver supports it. -/
structure IsBulkEndpoint (isIn : Bool) (endpoint : EndpointDescriptor) : Prop where
  isIn : endpoint.isIn = isIn
  attributes : endpoint.attributes = 0x02
  maxPacketSize : endpoint.maxPacketSize ∈ [8, 16, 32, 64, 512]

/-- The two endpoints are those between the first wanted descriptor and the next interface
descriptor. -/
structure OwnEndpoints (requested : Option UInt8) (bytes : List UInt8) (interface : FtdiInterface)
    (head : List UInt8) (body after : List (List UInt8)) : Prop where
  first : FirstWanted bytes requested head (body ++ after)
  number : head[2]? = some interface.interfaceNumber
  endpointCount : head[4]? = some 2
  plain : ∀ descriptor ∈ body, ¬ IsInterface descriptor
  bounded : ∀ descriptor ∈ after.head?, IsInterface descriptor
  /-- In either order. -/
  endpoints : ∃ bulkIn bulkOut, (ofType descriptorTypeEndpoint body = [bulkIn, bulkOut] ∨
      ofType descriptorTypeEndpoint body = [bulkOut, bulkIn]) ∧
    parseBulkEndpoint bulkIn = .ok interface.bulkInEndpoint ∧
    parseBulkEndpoint bulkOut = .ok interface.bulkOutEndpoint
  bulkIn : IsBulkEndpoint true interface.bulkInEndpoint
  bulkOut : IsBulkEndpoint false interface.bulkOutEndpoint

/-- An endpoint descriptor before the next interface descriptor. -/
def HasEndpoint (descriptors : List (List UInt8)) : Prop :=
  ∃ plain endpoint rest, descriptors = plain ++ endpoint :: rest ∧
    (∀ descriptor ∈ plain, ¬ IsInterface descriptor) ∧
    endpoint[1]? = some descriptorTypeEndpoint

/-- Before the next wanted descriptor, an interface descriptor with this number and alternate
setting 0 has an endpoint descriptor. -/
def HasRepeated (requested : Option UInt8) (number : UInt8) (descriptors : List (List UInt8)) :
    Prop :=
  ∃ middle repeated tail, descriptors = middle ++ repeated :: tail ∧ Claims number repeated ∧
    (∀ descriptor ∈ middle ++ [repeated], ¬ Wanted requested descriptor) ∧ HasEndpoint tail

/-- The selected interface's number and alternate setting 0 are repeated, before the next wanted
descriptor, by an interface descriptor that has an endpoint descriptor. -/
def RepeatedEndpoint (requested : Option UInt8) (bytes : List UInt8) : Prop :=
  ∃ head tail number, FirstWanted bytes requested head tail ∧ head[2]? = some number ∧
    HasRepeated requested number tail

section Selected

variable {requested : Option UInt8} {bytes head : List UInt8} {tail : List (List UInt8)}

theorem FirstWanted.dropWhile (first : FirstWanted bytes requested head tail) :
    (descriptorsOf bytes).dropWhile (fun descriptor => ¬ Wanted requested descriptor) =
      head :: tail := by
  obtain ⟨before, split, wanted, earlier⟩ := first
  rw [split, List.dropWhile_append_of_pos fun descriptor member => by simpa using earlier _ member,
    List.dropWhile_cons_of_neg (by simpa using wanted)]

/-- A configuration has one first wanted descriptor. -/
theorem FirstWanted.unique {other : List UInt8} {others : List (List UInt8)}
    (first : FirstWanted bytes requested head tail)
    (second : FirstWanted bytes requested other others) :
    head = other ∧ tail = others :=
  List.cons_eq_cons.mp (first.dropWhile.symm.trans second.dropWhile)

end Selected

/-! ### The endpoints that the loop counts -/

/-- The endpoint descriptors attributed to interface `number`, up to the next wanted descriptor;
`own` says whether the last interface descriptor had that number and alternate setting 0. -/
def attributed (requested : Option UInt8) (number : UInt8) (own : Bool) :
    List (List UInt8) → List (List UInt8)
  | [] => []
  | descriptor :: rest =>
    if IsInterface descriptor then
      if Wanted requested descriptor then []
      else attributed requested number (Claims number descriptor) rest
    else if own ∧ descriptor[1]? = some descriptorTypeEndpoint then
      descriptor :: attributed requested number own rest
    else attributed requested number own rest

section Attributed

variable {requested : Option UInt8} {number : UInt8} {own : Bool} {body after : List (List UInt8)}

/-- From the next interface descriptor on, the last one no longer matters. -/
theorem attributed_bounded (bounded : ∀ descriptor ∈ after.head?, IsInterface descriptor) :
    attributed requested number own after = attributed requested number false after := by
  cases after with
  | nil => rfl
  | cons descriptor rest =>
    have isInterface := bounded descriptor rfl
    rw [attributed, attributed, if_pos isInterface, if_pos isInterface]

theorem attributed_plain (plain : ∀ descriptor ∈ body, ¬ IsInterface descriptor) :
    attributed requested number own (body ++ after) =
      (if own then ofType descriptorTypeEndpoint body else []) ++
        attributed requested number own after := by
  induction body with
  | nil => simp [ofType]
  | cons descriptor rest ih =>
    have onward := ih fun other member => plain other (List.mem_cons_of_mem _ member)
    rw [List.cons_append, attributed, if_neg (plain descriptor List.mem_cons_self), onward]
    cases own with
    | false => simp
    | true =>
      by_cases isEndpoint : descriptor[1]? = some descriptorTypeEndpoint
      · simp [ofType, isEndpoint]
      · simp [ofType, isEndpoint]

/-- **The endpoints of the section come first**, and those of later sections follow. -/
theorem attributed_section (plain : ∀ descriptor ∈ body, ¬ IsInterface descriptor)
    (bounded : ∀ descriptor ∈ after.head?, IsInterface descriptor) :
    attributed requested number true (body ++ after) =
      ofType descriptorTypeEndpoint body ++ attributed requested number false (body ++ after) := by
  rw [attributed_plain plain, attributed_plain plain, attributed_bounded bounded, if_pos rfl]
  rfl

variable {descriptor : List UInt8} {descriptors : List (List UInt8)}

theorem hasEndpoint_cons : HasEndpoint (descriptor :: descriptors) ↔
    descriptor[1]? = some descriptorTypeEndpoint ∨
      ¬ IsInterface descriptor ∧ HasEndpoint descriptors := by
  constructor
  · rintro ⟨_ | ⟨first, plain⟩, endpoint, rest, split, before, isEndpoint⟩
    · cases split
      exact .inl isEndpoint
    · cases split
      exact .inr ⟨before _ List.mem_cons_self, plain, endpoint, rest, rfl,
        fun other member => before other (List.mem_cons_of_mem _ member), isEndpoint⟩
  · rintro (isEndpoint | ⟨notInterface, plain, endpoint, rest, rfl, before, isEndpoint⟩)
    · exact ⟨[], descriptor, descriptors, rfl, fun _ member => absurd member List.not_mem_nil,
        isEndpoint⟩
    · refine ⟨descriptor :: plain, endpoint, rest, rfl, ?_, isEndpoint⟩
      intro other member
      rcases List.mem_cons.mp member with rfl | member
      · exact notInterface
      · exact before other member

theorem hasRepeated_cons : HasRepeated requested number (descriptor :: descriptors) ↔
    ¬ Wanted requested descriptor ∧
      (Claims number descriptor ∧ HasEndpoint descriptors ∨
        HasRepeated requested number descriptors) := by
  constructor
  · rintro ⟨_ | ⟨first, middle⟩, repeated, tail, split, claims, unwanted, endpoint⟩
    · cases split
      exact ⟨unwanted _ List.mem_cons_self, .inl ⟨claims, endpoint⟩⟩
    · cases split
      exact ⟨unwanted _ List.mem_cons_self, .inr ⟨middle, repeated, tail, rfl, claims,
        fun other member => unwanted other (List.mem_cons_of_mem _ member), endpoint⟩⟩
  · rintro ⟨notWanted, ⟨claims, endpoint⟩ |
      ⟨middle, repeated, tail, rfl, claims, unwanted, endpoint⟩⟩
    · refine ⟨[], descriptor, descriptors, rfl, claims, ?_, endpoint⟩
      intro other member
      rw [List.mem_singleton.mp member]
      exact notWanted
    · refine ⟨descriptor :: middle, repeated, tail, rfl, claims, ?_, endpoint⟩
      intro other member
      rcases List.mem_cons.mp member with rfl | member
      · exact notWanted
      · exact unwanted other member

/-- **What is attributed beyond the section** are the endpoints of repeated descriptors. -/
theorem attributed_ne_nil :
    attributed requested number own descriptors ≠ [] ↔
      own = true ∧ HasEndpoint descriptors ∨ HasRepeated requested number descriptors := by
  induction descriptors generalizing own with
  | nil =>
    simp [attributed, HasEndpoint, HasRepeated]
  | cons descriptor rest ih =>
    rw [attributed, hasEndpoint_cons, hasRepeated_cons]
    by_cases isInterface : IsInterface descriptor
    · have notEndpoint : descriptor[1]? ≠ some descriptorTypeEndpoint := by
        rw [isInterface]
        decide
      by_cases wanted : Wanted requested descriptor
      · simp [isInterface, wanted, notEndpoint]
      · simp [isInterface, wanted, notEndpoint, ih]
    · have unclaimed : ¬ Claims number descriptor := fun claims => isInterface claims.1
      have notWanted : ¬ Wanted requested descriptor := fun wanted => isInterface wanted.1
      by_cases isEndpoint : descriptor[1]? = some descriptorTypeEndpoint
      · cases own <;> simp [isInterface, isEndpoint, unclaimed, notWanted, ih]
      · simp [isInterface, isEndpoint, unclaimed, notWanted, ih]

end Attributed

/-! ### What the loop has accepted -/

/-- The endpoint that a descriptor describes. -/
def readEndpoint (descriptor : List UInt8) : Option EndpointDescriptor :=
  (parseBulkEndpoint descriptor).toOption

/-- The endpoint descriptors are counted and read, and each direction has a slot of its own. -/
structure Accepted (found : List (List UInt8)) (search : Search) : Prop where
  seen : search.endpointsSeen.toNat = found.length
  one : OnePerDirection readEndpoint found
  bulkIn : (inDirection readEndpoint true found).head? = search.bulkIn
  bulkOut : (inDirection readEndpoint false found).head? = search.bulkOut

theorem accepted_nil (current : Option CurrentInterface) (selected : Option SelectedInterface) :
    Accepted [] { current, selected } :=
  ⟨rfl, onePerDirection_nil, rfl, rfl⟩

/-- **One more endpoint descriptor.** -/
theorem Accepted.concat {found : List (List UInt8)} {search next : Search} {descriptor : List UInt8}
    (accepted : Accepted found search) (takes : acceptEndpoint search descriptor = .ok next) :
    Accepted (found ++ [descriptor]) next ∧ next.current = search.current ∧
      next.selected = search.selected := by
  obtain ⟨endpoint, parsed, takes⟩ := bind_eq_ok.mp takes
  obtain ⟨endpointsSeen, counted, takes⟩ := bind_eq_ok.mp takes
  have seen : endpointsSeen.toNat = (found ++ [descriptor]).length := by
    rw [increment_eq_some.mp (okOr_eq_ok.mp counted), accepted.seen, List.length_append,
      List.length_singleton]
  have reads : readEndpoint descriptor = some endpoint := by
    rw [readEndpoint, parsed]
    rfl
  have extended (first : inDirection readEndpoint endpoint.isIn found = []) :
      OnePerDirection readEndpoint (found ++ [descriptor]) :=
    (onePerDirection_concat accepted.one).mpr ⟨endpoint, reads, first⟩
  split at takes
  next isIn =>
    split at takes
    · exact absurd takes (fail_ne_ok _ _)
    next empty =>
      have first : inDirection readEndpoint true found = [] := by
        rw [← List.head?_eq_none_iff, accepted.bulkIn]
        exact Option.not_isSome_iff_eq_none.mp empty
      cases takes
      refine ⟨⟨seen, extended (isIn ▸ first), ?_, ?_⟩, rfl, rfl⟩
      · simp [inDirection_concat reads, isIn, first]
      · simp [inDirection_concat reads, isIn, accepted.bulkOut]
  next isOut =>
    have isOut := Bool.eq_false_iff.mpr isOut
    split at takes
    · exact absurd takes (fail_ne_ok _ _)
    next empty =>
      have first : inDirection readEndpoint false found = [] := by
        rw [← List.head?_eq_none_iff, accepted.bulkOut]
        exact Option.not_isSome_iff_eq_none.mp empty
      cases takes
      refine ⟨⟨seen, extended (isOut ▸ first), ?_, ?_⟩, rfl, rfl⟩
      · simp [inDirection_concat reads, isOut, accepted.bulkIn]
      · simp [inDirection_concat reads, isOut, first]

/-! ### The loop -/

/-- The current interface descriptor names the selected interface and alternate setting 0. -/
def Search.owns (search : Search) : Bool :=
  search.current.any fun interface =>
    search.selected.map (·.number) = some interface.number ∧ interface.alternateSetting = 0

/-- What the loop does with a descriptor, when it returns: it stops at a second wanted descriptor,
selects the first, notes any other interface descriptor, accepts the selected interface's endpoint
descriptors and skips the rest. -/
inductive Takes (requested : Option UInt8) (search : Search) (descriptor : List UInt8)
    (rest : List DescriptorIter.Item) (stop : Search) : Prop where
  | stops (interface : CurrentInterface) (wanted : Wanted requested descriptor)
      (again : search.selected.isSome) (same : stop = { search with current := some interface })
  | selects (interface : CurrentInterface) (selected : SelectedInterface)
      (wanted : Wanted requested descriptor) (nothing : search.selected = none)
      (number : descriptor[2]? = some selected.number)
      (endpointCount : descriptor[4]? = some selected.endpointCount)
      (current : interface.number = selected.number ∧ interface.alternateSetting = 0)
      (onward : searchFrom requested { current := some interface, selected := some selected } rest =
        .ok stop)
  | notes (interface : CurrentInterface) (isInterface : IsInterface descriptor)
      (unwanted : ¬ Wanted requested descriptor) (number : descriptor[2]? = some interface.number)
      (alternateSetting : descriptor[3]? = some interface.alternateSetting)
      (onward : searchFrom requested { search with current := some interface } rest = .ok stop)
  | accepts (next : Search) (plain : ¬ IsInterface descriptor)
      (isEndpoint : descriptor[1]? = some descriptorTypeEndpoint) (owns : search.owns = true)
      (accepted : acceptEndpoint search descriptor = .ok next)
      (onward : searchFrom requested next rest = .ok stop)
  | skips (plain : ¬ IsInterface descriptor)
      (other : ¬ (search.owns = true ∧ descriptor[1]? = some descriptorTypeEndpoint))
      (onward : searchFrom requested search rest = .ok stop)

/-- A nine-byte interface descriptor and its fields. -/
theorem readInterface_eq_ok {descriptor : List UInt8} (nine : descriptor.length = 9) :
    ∃ interface, readInterface descriptor = .ok interface ∧
      descriptor[2]? = some interface.number ∧
      descriptor[3]? = some interface.alternateSetting ∧
      descriptor[4]? = some interface.endpointCount ∧ descriptor[5]? = some interface.class_ := by
  match descriptor, nine with
  | [_, _, number, alternateSetting, endpointCount, class_, subclass, _, _], _ =>
    exact ⟨⟨number, alternateSetting, endpointCount, class_, subclass⟩, rfl, rfl, rfl, rfl, rfl⟩

theorem isWanted_iff {requested : Option UInt8} {descriptor : List UInt8}
    {interface : CurrentInterface} (isInterface : IsInterface descriptor)
    (nine : descriptor.length = 9) (number : descriptor[2]? = some interface.number)
    (alternateSetting : descriptor[3]? = some interface.alternateSetting)
    (class_ : descriptor[5]? = some interface.class_) :
    isWanted requested interface = true ↔ Wanted requested descriptor := by
  rw [isWanted, decide_eq_true_eq, Wanted, number, alternateSetting, class_]
  cases requested with
  | none => simp [isInterface, nine]
  | some wanted => simp [isInterface, nine, eq_comm]

theorem searchFrom_cons {requested : Option UInt8} {search stop : Search}
    {item : DescriptorIter.Item} {rest : List DescriptorIter.Item}
    (runs : searchFrom requested search (item :: rest) = .ok stop) :
    ∃ descriptor, item = .ok descriptor ∧ Takes requested search descriptor rest stop := by
  rw [searchFrom] at runs
  obtain ⟨descriptor, converted, runs⟩ := bind_eq_ok.mp runs
  obtain ⟨kind, typed, runs⟩ := bind_eq_ok.mp runs
  have typed := index_eq_ok.mp typed
  refine ⟨descriptor, convert_eq_ok.mp converted, ?_⟩
  split at runs
  next same =>
    have isInterface : IsInterface descriptor := typed.trans (congrArg some same)
    split at runs
    · exact absurd runs (fail_ne_ok _ _)
    next nine =>
      have nine := Decidable.not_not.mp nine
      obtain ⟨interface, read, number, alternateSetting, endpointCount, class_⟩ :=
        readInterface_eq_ok nine
      have wantedIff : isWanted requested interface = true ↔ Wanted requested descriptor :=
        isWanted_iff isInterface nine number alternateSetting class_
      rw [read, ok_bind] at runs
      split at runs
      next wanted =>
        have wanted := wantedIff.mp wanted
        split at runs
        next again =>
          cases runs
          exact .stops interface wanted again rfl
        next nothing =>
          obtain ⟨protocol, -, runs⟩ := bind_eq_ok.mp runs
          refine .selects interface _ wanted (Option.not_isSome_iff_eq_none.mp nothing) number
            endpointCount ⟨rfl, ?_⟩ runs
          exact Option.some.inj (alternateSetting.symm.trans wanted.2.2.1)
      next unwanted =>
        exact .notes interface isInterface (fun wanted => unwanted (wantedIff.mpr wanted)) number
          alternateSetting runs
  next different =>
    have plain : ¬ IsInterface descriptor := fun isInterface =>
      different (Option.some.inj (typed.symm.trans isInterface))
    split at runs
    next isEndpoint =>
      cases current : search.current with
      | none =>
        simp only [current] at runs
        refine .skips plain ?_ runs
        simp [Search.owns, current]
      | some interface =>
        have owns : search.owns = true ↔ search.selected.map (·.number) = some interface.number ∧
            interface.alternateSetting = 0 := by
          rw [Search.owns, current, Option.any_some, decide_eq_true_eq]
        simp only [current] at runs
        split at runs
        next foreign =>
          refine .skips plain ?_ runs
          rintro ⟨own, -⟩
          obtain ⟨number, zero⟩ := owns.mp own
          rcases foreign with other | alternate
          · exact other number
          · exact alternate zero
        next own =>
          obtain ⟨number, zero⟩ := not_or.mp own
          obtain ⟨next, accepted, onward⟩ := bind_eq_ok.mp runs
          exact .accepts next plain (typed.trans (congrArg some isEndpoint))
            (owns.mpr ⟨Decidable.not_not.mp number, Decidable.not_not.mp zero⟩) accepted onward
    next notEndpoint =>
      refine .skips plain ?_ runs
      rintro ⟨-, isEndpoint⟩
      exact notEndpoint (Option.some.inj (typed.symm.trans isEndpoint))

/-! ### A search that returns -/

variable {requested : Option UInt8} {items : List DescriptorIter.Item} {search stop : Search}

/-- **From the selected interface on**, the loop accepts the endpoints attributed to it. -/
theorem searchFrom_selected {selected : SelectedInterface} {found : List (List UInt8)}
    (runs : searchFrom requested search items = .ok stop)
    (chosen : search.selected = some selected) (accepted : Accepted found search) :
    stop.selected = some selected ∧
      Accepted (found ++ attributed requested selected.number search.owns (yielded items))
        stop := by
  induction items generalizing search found with
  | nil =>
    cases runs
    refine ⟨chosen, ?_⟩
    rw [yielded_nil, attributed, List.append_nil]
    exact accepted
  | cons item rest ih =>
    obtain ⟨descriptor, rfl, takes⟩ := searchFrom_cons runs
    rw [yielded_cons, attributed]
    cases takes with
    | stops interface wanted again same =>
      subst same
      rw [if_pos wanted.1, if_pos wanted, List.append_nil]
      exact ⟨chosen, accepted.seen, accepted.one, accepted.bulkIn, accepted.bulkOut⟩
    | selects interface other wanted nothing =>
      rw [nothing] at chosen
      cases chosen
    | notes interface isInterface unwanted number alternateSetting onward =>
      have owns : ({ search with current := some interface } : Search).owns =
          decide (Claims selected.number descriptor) := by
        simp [Search.owns, chosen, Claims, isInterface, number, alternateSetting, eq_comm]
      rw [if_pos isInterface, if_neg unwanted, ← owns]
      exact ih onward chosen ⟨accepted.seen, accepted.one, accepted.bulkIn, accepted.bulkOut⟩
    | accepts next plain isEndpoint owns takes onward =>
      obtain ⟨extended, current, kept⟩ := accepted.concat takes
      have same : next.owns = search.owns := by
        rw [Search.owns, Search.owns, current, kept]
      have further := ih onward (kept.trans chosen) extended
      rw [same, List.append_assoc, List.singleton_append] at further
      rw [if_neg plain, if_pos ⟨owns, isEndpoint⟩]
      exact further
    | skips plain other onward =>
      rw [if_neg plain, if_neg other]
      exact ih onward chosen accepted

/-- The loop selects the first wanted descriptor and accepts the endpoints attributed to it. -/
def Selects (requested : Option UInt8) (descriptors : List (List UInt8))
    (selected : SelectedInterface) (stop : Search) : Prop :=
  ∃ before head tail, descriptors = before ++ head :: tail ∧ Wanted requested head ∧
    (∀ descriptor ∈ before, ¬ Wanted requested descriptor) ∧
    head[2]? = some selected.number ∧ head[4]? = some selected.endpointCount ∧
    Accepted (attributed requested selected.number true tail) stop

theorem Selects.cons {descriptors : List (List UInt8)} {selected : SelectedInterface}
    {descriptor : List UInt8} (unwanted : ¬ Wanted requested descriptor)
    (selects : Selects requested descriptors selected stop) :
    Selects requested (descriptor :: descriptors) selected stop := by
  obtain ⟨before, head, tail, rfl, wanted, earlier, about⟩ := selects
  refine ⟨descriptor :: before, head, tail, rfl, wanted, ?_, about⟩
  intro other member
  rcases List.mem_cons.mp member with rfl | member
  · exact unwanted
  · exact earlier other member

/-- **Up to the selected interface**, the loop accepts nothing. -/
theorem searchFrom_unselected {selected : SelectedInterface}
    (runs : searchFrom requested search items = .ok stop) (nothing : search.selected = none)
    (chosen : stop.selected = some selected) :
    Selects requested (yielded items) selected stop := by
  induction items generalizing search with
  | nil =>
    cases runs
    rw [nothing] at chosen
    cases chosen
  | cons item rest ih =>
    obtain ⟨descriptor, rfl, takes⟩ := searchFrom_cons runs
    rw [yielded_cons]
    cases takes with
    | stops interface wanted again same =>
      rw [nothing] at again
      cases again
    | selects interface other wanted nothing number endpointCount current onward =>
      obtain ⟨kept, accepted⟩ := searchFrom_selected onward rfl (accepted_nil _ _)
      obtain rfl : other = selected := Option.some.inj (kept.symm.trans chosen)
      have owns : ({ current := some interface, selected := some other } : Search).owns = true := by
        simp [Search.owns, current]
      rw [owns, List.nil_append] at accepted
      exact ⟨[], descriptor, yielded rest, rfl, wanted,
        fun _ member => absurd member List.not_mem_nil, number, endpointCount, accepted⟩
    | notes interface isInterface unwanted number alternateSetting onward =>
      exact (ih onward nothing).cons unwanted
    | accepts next plain isEndpoint owns =>
      rw [Search.owns, nothing] at owns
      cases current : search.current <;> simp [current] at owns
    | skips plain other onward =>
      exact (ih onward nothing).cons fun wanted => plain wanted.1

/-! ### The two endpoints -/

theorem parseBulkEndpoint_eq_ok {descriptor : List UInt8} {endpoint : EndpointDescriptor}
    (parsed : parseBulkEndpoint descriptor = .ok endpoint) :
    endpoint.attributes = 0x02 ∧ endpoint.maxPacketSize ∈ [8, 16, 32, 64, 512] := by
  obtain ⟨rejected, -, parsed⟩ := bind_eq_ok.mp parsed
  split at parsed
  · exact absurd parsed (fail_ne_ok _ _)
  obtain ⟨⟨read, rawMaxPacketSize⟩, -, parsed⟩ := bind_eq_ok.mp parsed
  obtain ⟨valid, rfl⟩ := guard_eq_ok.mp parsed
  simp only [not_or, Decidable.not_not] at valid
  exact ⟨valid.2.2.1, valid.2.2.2.1⟩

theorem isBulkEndpoint {descriptor : List UInt8} {endpoint : EndpointDescriptor} {isIn : Bool}
    (parsed : parseBulkEndpoint descriptor = .ok endpoint) (direction : endpoint.isIn = isIn) :
    IsBulkEndpoint isIn endpoint :=
  ⟨direction, (parseBulkEndpoint_eq_ok parsed).1, (parseBulkEndpoint_eq_ok parsed).2⟩

theorem readEndpoint_eq_some {descriptor : List UInt8} {endpoint : EndpointDescriptor} :
    readEndpoint descriptor = some endpoint ↔ parseBulkEndpoint descriptor = .ok endpoint :=
  toOption_eq_some

section Discovered

variable {device : DeviceDescriptor} {bytes : List UInt8} {interface : FtdiInterface}

/-- **What a discovered interface is made of**: two endpoints attributed to the first wanted
descriptor. -/
theorem discoverInterface_attributed
    (discovered : FtdiInterface.discoverInterface device bytes requested = .ok interface) :
    ∃ head tail bulkIn bulkOut, FirstWanted bytes requested head tail ∧
      head[2]? = some interface.interfaceNumber ∧ head[4]? = some 2 ∧
      (attributed requested interface.interfaceNumber true tail = [bulkIn, bulkOut] ∨
        attributed requested interface.interfaceNumber true tail = [bulkOut, bulkIn]) ∧
      parseBulkEndpoint bulkIn = .ok interface.bulkInEndpoint ∧
      parseBulkEndpoint bulkOut = .ok interface.bulkOutEndpoint ∧
      interface.bulkInEndpoint.isIn = true ∧ interface.bulkOutEndpoint.isIn = false := by
  rw [FtdiInterface.discoverInterface] at discovered
  split at discovered
  · exact absurd discovered (fail_ne_ok _ _)
  split at discovered
  · exact absurd discovered (fail_ne_ok _ _)
  obtain ⟨configuration, -, discovered⟩ := bind_eq_ok.mp discovered
  obtain ⟨iter, created, discovered⟩ := bind_eq_ok.mp discovered
  obtain ⟨search, runs, discovered⟩ := bind_eq_ok.mp discovered
  obtain ⟨selected, chosen, discovered⟩ := bind_eq_ok.mp discovered
  split at discovered
  · exact absurd discovered (fail_ne_ok _ _)
  next counted =>
  obtain ⟨bulkOut, isOut, discovered⟩ := bind_eq_ok.mp discovered
  obtain ⟨bulkIn, isIn, discovered⟩ := bind_eq_ok.mp discovered
  cases discovered
  simp only [not_or, Decidable.not_not] at counted
  obtain ⟨before, head, tail, split, wanted, earlier, number, endpointCount, accepted⟩ :=
    searchFrom_unselected runs rfl (okOr_eq_ok.mp chosen)
  obtain ⟨outward, inward, both, readsOut, readsIn, out, in_⟩ := accepted.one.two
    (accepted.bulkOut.trans (okOr_eq_ok.mp isOut)) (accepted.bulkIn.trans (okOr_eq_ok.mp isIn))
  refine ⟨head, tail, inward, outward, ⟨before, ?_, wanted, earlier⟩, number, ?_, both.symm,
    readEndpoint_eq_some.mp readsIn, readEndpoint_eq_some.mp readsOut, in_, out⟩
  · rw [descriptorsOf_eq_yielded (convert_eq_ok.mp created), split]
  · rw [endpointCount, counted.1]

/-- Beyond the section, endpoints are attributed to the repeated descriptors. -/
theorem attributed_repeated {number : UInt8} {tail : List (List UInt8)} :
    attributed requested number false tail ≠ [] ↔ HasRepeated requested number tail := by
  rw [attributed_ne_nil]
  simp only [Bool.false_eq_true, false_and, false_or]

theorem OwnEndpoints.unrepeated {head : List UInt8} {body after : List (List UInt8)}
    (own : OwnEndpoints requested bytes interface head body after)
    (discovered : FtdiInterface.discoverInterface device bytes requested = .ok interface) :
    ¬ RepeatedEndpoint requested bytes := by
  obtain ⟨selected, tail, bulkIn, bulkOut, first, number, -, both, -⟩ :=
    discoverInterface_attributed discovered
  rintro ⟨again, others, repeatedNumber, second, named, repeated⟩
  obtain ⟨rfl, rfl⟩ := first.unique own.first
  obtain ⟨rfl, rfl⟩ := first.unique second
  obtain rfl : interface.interfaceNumber = repeatedNumber :=
    Option.some.inj (number.symm.trans named)
  -- the section has two of the two attributed endpoints
  obtain ⟨one, two, endpoints, -⟩ := own.endpoints
  have few : (ofType descriptorTypeEndpoint body).length = 2 := by
    rcases endpoints with all | all <;> rw [all] <;> rfl
  have length :
      (attributed requested interface.interfaceNumber true (body ++ after)).length = 2 := by
    rcases both with all | all <;> rw [all] <;> rfl
  rw [attributed_section own.plain own.bounded, List.length_append, few] at length
  exact attributed_repeated.mpr repeated (List.length_eq_zero_iff.mp (Nat.add_left_cancel length))

theorem ownEndpoints_of_unrepeated
    (discovered : FtdiInterface.discoverInterface device bytes requested = .ok interface)
    (unrepeated : ¬ RepeatedEndpoint requested bytes) :
    ∃ head body after, OwnEndpoints requested bytes interface head body after := by
  obtain ⟨head, tail, bulkIn, bulkOut, first, number, endpointCount, both, parsedIn, parsedOut,
    isIn, isOut⟩ := discoverInterface_attributed discovered
  have none : attributed requested interface.interfaceNumber false tail = [] := by
    by_contra some
    exact unrepeated ⟨head, tail, _, first, number, attributed_repeated.mp some⟩
  obtain ⟨body, after, rfl, plain, bounded⟩ := InterfaceScan.section_split tail
  rw [attributed_section plain bounded, none, List.append_nil] at both
  exact ⟨head, body, after, first, number, endpointCount, plain, bounded,
    ⟨bulkIn, bulkOut, both, parsedIn, parsedOut⟩, isBulkEndpoint parsedIn isIn,
    isBulkEndpoint parsedOut isOut⟩

/-- **Both endpoints are the selected interface's own** exactly when no descriptor that repeats it
has an endpoint. -/
theorem ownEndpoints_iff
    (discovered : FtdiInterface.discoverInterface device bytes requested = .ok interface) :
    (∃ head body after, OwnEndpoints requested bytes interface head body after) ↔
      ¬ RepeatedEndpoint requested bytes := by
  constructor
  · rintro ⟨head, body, after, own⟩
    exact own.unrepeated discovered
  · exact ownEndpoints_of_unrepeated discovered

/-- A single-port chip, as the driver's own tests describe it. -/
def ft232Device : DeviceDescriptor := ⟨ftdiVendorId, ftdiProductIdFt232⟩

/-- The configuration of an FT232. -/
def ft232Configuration : List UInt8 := List.flatten [
  [9, 2, 32, 0, 1, 1, 0, 0x80, 50],
  [9, 4, 0, 0, 2, 0xff, 0xff, 0xff, 0],
  [7, 5, 0x81, 2, 64, 0, 0],
  [7, 5, 0x02, 2, 64, 0, 0]]

theorem ownEndpoints_iff_ft232 :
    (∃ head body after, OwnEndpoints none ft232Configuration
        ⟨⟨32, 1, 1, 0, 0x80, 100⟩, 0, 0xff, 0xff, ⟨0x02, 2, 64, 0⟩, ⟨0x81, 2, 64, 0⟩⟩
        head body after) ↔
      ¬ RepeatedEndpoint none ft232Configuration :=
  ownEndpoints_iff (show FtdiInterface.discoverInterface ft232Device _ _ = .ok _ from rfl)

/-- The bulk OUT endpoint belongs to a HID interface with the same number. -/
def repeatedConfiguration : List UInt8 := List.flatten [
  [9, 2, 41, 0, 1, 1, 0, 0x80, 50],
  [9, 4, 0, 0, 2, 0xff, 0xff, 0xff, 0],
  [7, 5, 0x81, 2, 64, 0, 0],
  [9, 4, 0, 0, 1, 0x03, 0, 0, 0],
  [7, 5, 0x02, 2, 64, 0, 0]]

theorem not_ownEndpoints :
    ¬ ∀ (device : DeviceDescriptor) (bytes : List UInt8) (requested : Option UInt8)
        (interface : FtdiInterface),
      FtdiInterface.discoverInterface device bytes requested = .ok interface →
        ∃ head body after, OwnEndpoints requested bytes interface head body after := by
  intro always
  have discovered : FtdiInterface.discoverInterface ft232Device repeatedConfiguration none =
      .ok ⟨⟨41, 1, 1, 0, 0x80, 100⟩, 0, 0xff, 0xff, ⟨0x02, 2, 64, 0⟩, ⟨0x81, 2, 64, 0⟩⟩ := rfl
  obtain ⟨head, body, after, own⟩ := always _ _ _ _ discovered
  refine own.unrepeated discovered ⟨[9, 4, 0, 0, 2, 0xff, 0xff, 0xff, 0], _, 0,
    ⟨[[9, 2, 41, 0, 1, 1, 0, 0x80, 50]], rfl, by decide, by decide⟩, rfl, ?_⟩
  exact ⟨[[7, 5, 0x81, 2, 64, 0, 0]], [9, 4, 0, 0, 1, 0x03, 0, 0, 0], [[7, 5, 0x02, 2, 64, 0, 0]],
    rfl, by decide, by decide, [], [7, 5, 0x02, 2, 64, 0, 0], [], rfl, by decide, rfl⟩

end Discovered

end PioUsbHost.Ftdi
