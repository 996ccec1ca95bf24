/-
**Which alternate setting an audio endpoint is paired with.**

A nine-byte interface descriptor starts the loop over. One of another length matches no branch, so
what was found of the alternate setting before it stays, and the endpoint of the malformed setting is
taken for the earlier one's.

* `Pairs`: between an alternate setting and the endpoint stand its general and its format
  descriptor, and no interface descriptor.
* `Completes`: an endpoint finds a complete setting behind the last nine-byte interface descriptor; the
  first that does ends the search.
* `Seen`, `Told`: the loop's variables say what stands after that interface descriptor.
* `pairs_iff`: the endpoint that ends the search is so paired exactly when the interface descriptor
  nearest before it has nine bytes.
-/

import PioUsbHost.Audio.Steps
import PioUsbHost.Lib.History

namespace PioUsbHost.Audio

open PioUsbHost.Lib.History PioUsbHost.Lib.Panic PioUsbHost.Usb

/-! ### An alternate setting and its endpoint -/

/-- A general descriptor and, later, a format descriptor. -/
def HasFormat (body : List (List UInt8)) : Prop :=
  ∃ one general two format three, body = one ++ general :: (two ++ format :: three) ∧
    IsPcmGeneral general ∧ IsCaptureFormat format

/-- The descriptors before the endpoint end with its alternate setting: the interface descriptor,
then, before the next interface descriptor of whatever length, the general and the format
descriptor. -/
structure Pairs (before : List (List UInt8)) (endpoint : List UInt8)
    (interface : AudioInputInterface) (earlier : List (List UInt8)) (setting : List UInt8)
    (body : List (List UInt8)) : Prop where
  split : before = earlier ++ setting :: body
  isSetting : IsSetting setting interface.interfaceNumber interface.alternateSetting
  hasFormat : HasFormat body
  isEndpoint : IsCaptureEndpoint endpoint interface
  plain : ∀ descriptor ∈ body, ¬ IsInterface descriptor

/-- The interface descriptor, of whatever length, nearest before what follows. -/
def nearestInterface (before : List (List UInt8)) : Option (List UInt8) :=
  (before.filter fun descriptor => IsInterface descriptor).getLast?

/-! ### Where the search ends, by the descriptors -/

/-- The last nine-byte interface descriptor opens an alternate setting that the search enters. -/
structure Opens (seen earlier : List (List UInt8)) (setting : List UInt8) (body : List (List UInt8)) :
    Prop where
  split : seen = earlier ++ setting :: body
  isCandidate : IsCandidate setting
  last : ∀ descriptor ∈ body, ¬ (IsInterface descriptor ∧ descriptor.length = 9)

/-- The last general descriptor of the setting has the PCM tag. -/
def Streams (body : List (List UInt8)) : Prop :=
  AtLast (fun _ descriptor => IsGeneral descriptor) IsPcmGeneral body

/-- The last format descriptor that such a general descriptor precedes is the one that is captured. -/
def Formats (body : List (List UInt8)) : Prop :=
  AtLast (fun before descriptor => Streams before ∧ IsFormat descriptor) IsCaptureFormat body

/-- **An endpoint ends the search** behind a complete alternate setting. -/
def Completes (before : List (List UInt8)) (endpoint : List UInt8) : Prop :=
  (∃ earlier setting body, Opens before earlier setting body ∧ Streams body ∧ Formats body) ∧
    IsUsable endpoint

/-- No endpoint before it does. -/
def FirstCompletes (before : List (List UInt8)) (endpoint : List UInt8) : Prop :=
  AtEach (fun seen descriptor => ¬ Completes seen descriptor) before ∧ Completes before endpoint

/-! ### What the variables say -/

/-- A candidate's interface descriptor is the last one of nine bytes, and the variables say what
follows it. -/
structure Candidate (seen : List (List UInt8)) (search : Search)
    (earlier : List (List UInt8)) (setting : List UInt8) (body : List (List UInt8)) : Prop where
  split : seen = earlier ++ setting :: body
  isSetting : IsSetting setting search.interfaceNumber search.alternateSetting
  isCandidate : IsCandidate setting
  last : ∀ descriptor ∈ body, ¬ (IsInterface descriptor ∧ descriptor.length = 9)
  pcm : search.pcmStream = true → ∃ general ∈ body, IsPcmGeneral general
  format : search.formatValid = true → HasFormat body

/-- **The loop's variables describe what it has seen.** -/
def Seen (seen : List (List UInt8)) (search : Search) : Prop :=
  search.candidate = true → ∃ earlier setting body, Candidate seen search earlier setting body

theorem seen_nil : Seen [] {} := fun candidate => absurd candidate Bool.false_ne_true

theorem HasFormat.append {body : List (List UInt8)} (hasFormat : HasFormat body)
    (others : List (List UInt8)) : HasFormat (body ++ others) := by
  obtain ⟨one, general, two, format, three, rfl, isGeneral, isFormat⟩ := hasFormat
  exact ⟨one, general, two, format, three ++ others, by simp, isGeneral, isFormat⟩

theorem hasFormat_concat {body : List (List UInt8)} {general format : List UInt8}
    (member : general ∈ body) (isGeneral : IsPcmGeneral general)
    (isFormat : IsCaptureFormat format) : HasFormat (body ++ [format]) := by
  obtain ⟨one, two, rfl⟩ := List.append_of_mem member
  exact ⟨one, general, two, format, [], by simp, isGeneral, isFormat⟩

/-- A descriptor in the candidate's setting. -/
theorem Candidate.concat {seen earlier body : List (List UInt8)} {search next : Search}
    {setting descriptor : List UInt8} (candidate : Candidate seen search earlier setting body)
    (other : ¬ (IsInterface descriptor ∧ descriptor.length = 9))
    (same : next.interfaceNumber = search.interfaceNumber ∧
      next.alternateSetting = search.alternateSetting)
    (pcm : next.pcmStream = true → search.pcmStream = true ∨ IsPcmGeneral descriptor)
    (format : next.formatValid = true → search.formatValid = true ∨
      search.pcmStream = true ∧ IsCaptureFormat descriptor) :
    Candidate (seen ++ [descriptor]) next earlier setting (body ++ [descriptor]) where
  split := by rw [candidate.split, List.append_assoc, List.cons_append]
  isSetting := by
    rw [same.1, same.2]
    exact candidate.isSetting
  isCandidate := candidate.isCandidate
  last := by
    intro inside member
    rcases List.mem_append.mp member with earlier | here
    · exact candidate.last inside earlier
    · rw [List.mem_singleton.mp here]
      exact other
  pcm := by
    intro now
    rcases pcm now with before | isGeneral
    · obtain ⟨general, member, isGeneral⟩ := candidate.pcm before
      exact ⟨general, List.mem_append_left _ member, isGeneral⟩
    · exact ⟨descriptor, List.mem_append_right _ (List.mem_singleton_self _), isGeneral⟩
  format := by
    intro now
    rcases format now with before | ⟨streams, isFormat⟩
    · exact (candidate.format before).append _
    · obtain ⟨general, member, isGeneral⟩ := candidate.pcm streams
      exact hasFormat_concat member isGeneral isFormat

/-- **One descriptor** keeps the variables in step. -/
theorem Seen.concat {seen : List (List UInt8)} {search next : Search} {descriptor : List UInt8}
    (described : Seen seen search) (notes : Notes search descriptor next) :
    Seen (seen ++ [descriptor]) next := by
  intro candidate
  cases notes with
  | setting isInterface nine isSetting enters started =>
    refine ⟨seen, descriptor, [], ?_⟩
    exact {
      split := rfl
      isSetting := isSetting candidate
      isCandidate := enters.mp candidate
      last := fun _ member => absurd member List.not_mem_nil
      pcm := fun pcm => absurd (started.1.symm.trans pcm) Bool.false_ne_true
      format := fun format => absurd (started.2.symm.trans format) Bool.false_ne_true }
  | general _ isGeneral pcm same =>
    rw [same] at candidate ⊢
    obtain ⟨earlier, setting, body, about⟩ := described candidate
    exact ⟨earlier, setting, body ++ [descriptor], about.concat isGeneral.not_interface
      ⟨rfl, rfl⟩ (fun now => .inr (pcm.mp now)) .inl⟩
  | format pcm isFormat valid same =>
    rw [same] at candidate ⊢
    obtain ⟨earlier, setting, body, about⟩ := described candidate
    exact ⟨earlier, setting, body ++ [descriptor], about.concat isFormat.not_interface
      ⟨rfl, rfl⟩ .inl (fun now => .inr ⟨pcm, valid.mp now⟩)⟩
  | nothing other _ _ _ same =>
    rw [same] at candidate ⊢
    obtain ⟨earlier, setting, body, about⟩ := described candidate
    exact ⟨earlier, setting, body ++ [descriptor], about.concat other ⟨rfl, rfl⟩ .inl .inl⟩

/-- **And they say no less** than what stands behind the interface descriptor that opens it. -/
def Told (seen : List (List UInt8)) (search : Search) : Prop :=
  ∀ earlier setting body, Opens seen earlier setting body → search.candidate = true ∧
    (search.pcmStream = true ↔ Streams body) ∧ (search.formatValid = true ↔ Formats body)

theorem told_nil : Told [] {} := fun _ _ _ opens =>
  absurd opens.split.symm (List.append_ne_nil_of_right_ne_nil _ (List.cons_ne_nil _ _))

/-- An interface descriptor of nine bytes starts over. -/
theorem Opens.of_interface {seen earlier body : List (List UInt8)} {setting descriptor : List UInt8}
    (opens : Opens (seen ++ [descriptor]) earlier setting body)
    (nine : IsInterface descriptor ∧ descriptor.length = 9) : body = [] ∧ IsCandidate descriptor := by
  rcases List.eq_nil_or_concat' body with rfl | ⟨rest, final, rfl⟩
  · obtain ⟨-, same⟩ := List.append_inj' opens.split rfl
    cases same
    exact ⟨rfl, opens.isCandidate⟩
  · have split := opens.split
    rw [← List.cons_append, ← List.append_assoc] at split
    obtain ⟨-, same⟩ := List.append_inj' split rfl
    cases same
    exact absurd nine (opens.last _ List.mem_concat_self)

/-- Another descriptor belongs to the setting that is open. -/
theorem Opens.of_other {seen earlier body : List (List UInt8)} {setting descriptor : List UInt8}
    (opens : Opens (seen ++ [descriptor]) earlier setting body)
    (other : ¬ (IsInterface descriptor ∧ descriptor.length = 9)) :
    ∃ before, body = before ++ [descriptor] ∧ Opens seen earlier setting before := by
  rcases List.eq_nil_or_concat' body with rfl | ⟨rest, final, rfl⟩
  · obtain ⟨-, same⟩ := List.append_inj' opens.split rfl
    cases same
    obtain ⟨_, _, isSetting⟩ := opens.isCandidate.setting
    exact absurd ⟨isSetting.isInterface, isSetting.nine⟩ other
  · have split := opens.split
    rw [← List.cons_append, ← List.append_assoc] at split
    obtain ⟨rfl, same⟩ := List.append_inj' split rfl
    cases same
    exact ⟨rest, rfl, rfl, opens.isCandidate, fun inside member =>
      opens.last inside (List.mem_append_left _ member)⟩

/-- **One descriptor** keeps that in step, too. -/
theorem Told.concat {seen : List (List UInt8)} {search next : Search} {descriptor : List UInt8}
    (told : Told seen search) (notes : Notes search descriptor next) :
    Told (seen ++ [descriptor]) next := by
  intro earlier setting body opens
  cases notes with
  | setting isInterface nine isSetting candidate started =>
    obtain ⟨rfl, isCandidate⟩ := opens.of_interface ⟨isInterface, nine⟩
    refine ⟨candidate.mpr isCandidate, ?_, ?_⟩
    · exact ⟨fun pcm => absurd (started.1.symm.trans pcm) Bool.false_ne_true,
        fun streams => absurd streams not_atLast_nil⟩
    · exact ⟨fun valid => absurd (started.2.symm.trans valid) Bool.false_ne_true,
        fun formats => absurd formats not_atLast_nil⟩
  | general _ isGeneral pcm same =>
    obtain ⟨before, rfl, inside⟩ := opens.of_other isGeneral.not_interface
    obtain ⟨candidate, -, format⟩ := told _ _ _ inside
    have streams : Streams (before ++ [descriptor]) ↔ IsPcmGeneral descriptor :=
      atLast_concat_of isGeneral
    have formats : Formats (before ++ [descriptor]) ↔ Formats before :=
      atLast_concat_of_not fun both => both.2.not_general isGeneral
    rw [streams, formats, same]
    exact ⟨candidate, pcm, format⟩
  | format pcm isFormat valid same =>
    obtain ⟨before, rfl, inside⟩ := opens.of_other isFormat.not_interface
    obtain ⟨candidate, heard, -⟩ := told _ _ _ inside
    have streams : Streams (before ++ [descriptor]) ↔ Streams before :=
      atLast_concat_of_not isFormat.not_general
    have formats : Formats (before ++ [descriptor]) ↔ IsCaptureFormat descriptor :=
      atLast_concat_of ⟨heard.mp pcm, isFormat⟩
    rw [streams, formats, same]
    exact ⟨candidate, heard, valid⟩
  | nothing other notGeneral notFormat _ same =>
    obtain ⟨before, rfl, inside⟩ := opens.of_other other
    obtain ⟨candidate, heard, format⟩ := told _ _ _ inside
    have streams : Streams (before ++ [descriptor]) ↔ Streams before :=
      atLast_concat_of_not (notGeneral candidate)
    have formats : Formats (before ++ [descriptor]) ↔ Formats before :=
      atLast_concat_of_not fun both => notFormat candidate (heard.mpr both.1) both.2
    rw [streams, formats, same]
    exact ⟨candidate, heard, format⟩

/-- Where the search goes on, no setting was complete. -/
theorem Told.not_completes {seen : List (List UInt8)} {search next : Search}
    {descriptor : List UInt8} (told : Told seen search) (notes : Notes search descriptor next) :
    ¬ Completes seen descriptor := by
  rintro ⟨⟨earlier, setting, body, opens, streams, formats⟩, usable⟩
  obtain ⟨candidate, heard, format⟩ := told _ _ _ opens
  exact notes.incomplete candidate (heard.mpr streams) (format.mpr formats) usable

/-! ### The endpoint that ends the search -/

/-- The search goes past the descriptors `before`, and ends with the interface at `endpoint`. -/
def StopsAt (search : Search) (before : List (List UInt8)) (endpoint : List UInt8)
    (interface : AudioInputInterface) : Prop :=
  searchFrom interface.configuration search (before.map .ok) = fail .missingCaptureInterface ∧
    ∀ rest, searchFrom interface.configuration search
      (before.map .ok ++ .ok endpoint :: rest) = .ok interface

/-- The last nine-byte interface descriptor opens the interface's alternate setting, and its general
and its format descriptor follow. -/
def LastSetting (before : List (List UInt8)) (interface : AudioInputInterface) : Prop :=
  ∃ earlier setting body, before = earlier ++ setting :: body ∧
    IsSetting setting interface.interfaceNumber interface.alternateSetting ∧
    (∀ descriptor ∈ body, ¬ (IsInterface descriptor ∧ descriptor.length = 9)) ∧ HasFormat body

/-- **A search that returns** ends at the first endpoint that completes a setting. -/
theorem searchFrom_stops {header : ConfigurationDescriptorHeader} {search : Search}
    {interface : AudioInputInterface} {items : List DescriptorIter.Item}
    {seen : List (List UInt8)} (described : Seen seen search) (told : Told seen search)
    (none : AtEach (fun earlier descriptor => ¬ Completes earlier descriptor) seen)
    (runs : searchFrom header search items = .ok interface) :
    ∃ before endpoint after, yielded items = before ++ endpoint :: after ∧
      interface.configuration = header ∧ StopsAt search before endpoint interface ∧
      IsCaptureEndpoint endpoint interface ∧ LastSetting (seen ++ before) interface ∧
      FirstCompletes (seen ++ before) endpoint := by
  induction items generalizing search seen with
  | nil => exact absurd runs (fail_ne_ok _ _)
  | cons item rest ih =>
    obtain ⟨descriptor, rfl, takes⟩ := searchFrom_cons runs
    rw [yielded_cons]
    cases takes with
    | stops ends complete isEndpoint usable setting =>
      obtain ⟨earlier, opening, body, about⟩ := described complete.1
      have opens : Opens seen earlier opening body := ⟨about.split, about.isCandidate, about.last⟩
      obtain ⟨-, heard, format⟩ := told _ _ _ opens
      obtain ⟨rfl, number, alternate⟩ := setting
      rw [← List.append_nil seen] at none opens
      refine ⟨[], descriptor, _, rfl, rfl, ⟨rfl, ends⟩, isEndpoint,
        ⟨earlier, opening, body, opens.split, ?_, about.last, about.format complete.2.2⟩, none,
        ⟨earlier, opening, body, opens, heard.mp complete.2.1, format.mp complete.2.2⟩, usable⟩
      rw [number, alternate]
      exact about.isSetting
    | onward next notes goes =>
      rw [goes] at runs
      obtain ⟨before, endpoint, after, split, rfl, stops, isEndpoint, setting, first⟩ :=
        ih (described.concat notes) (told.concat notes)
          (atEach_concat.mpr ⟨none, told.not_completes notes⟩) runs
      rw [List.append_assoc, List.singleton_append] at setting first
      refine ⟨descriptor :: before, endpoint, after, ?_, rfl, ⟨?_, fun others => ?_⟩, isEndpoint,
        setting, first⟩
      · rw [split, List.cons_append]
      · rw [List.map_cons, goes]
        exact stops.1
      · rw [List.map_cons, List.cons_append, goes]
        exact stops.2 others

/-- A search that goes past the first endpoint does not stop there. -/
theorem StopsAt.not_before {search : Search} {before others : List (List UInt8)}
    {endpoint other : List UInt8} {interface : AudioInputInterface}
    (first : StopsAt search before endpoint interface) (more : List (List UInt8))
    (second : StopsAt search others other interface) : others ≠ before ++ endpoint :: more := by
  rintro rfl
  have passes := second.1
  rw [List.map_append, List.map_cons, first.2] at passes
  exact ok_ne_fail _ _ passes

/-- The search stops at one place. -/
theorem StopsAt.unique {search : Search} {before others after rest : List (List UInt8)}
    {endpoint other : List UInt8} {interface : AudioInputInterface}
    (first : StopsAt search before endpoint interface)
    (second : StopsAt search others other interface)
    (same : before ++ endpoint :: after = others ++ other :: rest) :
    before = others ∧ endpoint = other := by
  rcases List.append_eq_append_iff.mp same with ⟨between, split, tail⟩ | ⟨between, split, tail⟩
  · cases between with
    | nil =>
      rw [List.append_nil] at split
      exact ⟨split.symm, (List.cons.inj tail).1⟩
    | cons next more =>
      obtain ⟨rfl, -⟩ := List.cons.inj tail
      exact absurd split (first.not_before more second)
  · cases between with
    | nil =>
      rw [List.append_nil] at split
      exact ⟨split, (List.cons.inj tail).1.symm⟩
    | cons next more =>
      obtain ⟨rfl, -⟩ := List.cons.inj tail
      exact absurd split (second.not_before more first)

/-! ### The pairing -/

section Discovered

variable {bytes : List UInt8} {interface : AudioInputInterface}

/-- The configuration has the interface's endpoint, paired with its own alternate setting. -/
def PairsSomewhere (bytes : List UInt8) (interface : AudioInputInterface) : Prop :=
  ∃ before endpoint after earlier setting body,
    descriptorsOf bytes = before ++ endpoint :: after ∧
    Pairs before endpoint interface earlier setting body

/-- The endpoint at which the search stops is paired with its own alternate setting. -/
def PairsWhereItStops (bytes : List UInt8) (interface : AudioInputInterface) : Prop :=
  ∃ before endpoint after earlier setting body,
    descriptorsOf bytes = before ++ endpoint :: after ∧ StopsAt {} before endpoint interface ∧
    Pairs before endpoint interface earlier setting body

/-- Of the first endpoint descriptor that completes a setting, the nearest interface descriptor before it
has nine bytes. -/
def NearestHasNineBytes (bytes : List UInt8) : Prop :=
  ∃ before endpoint after,
    descriptorsOf bytes = before ++ endpoint :: after ∧ FirstCompletes before endpoint ∧
    ∀ descriptor ∈ nearestInterface before, descriptor.length = 9

theorem nearestInterface_of_plain {earlier body : List (List UInt8)} {setting : List UInt8}
    (isInterface : IsInterface setting) (plain : ∀ descriptor ∈ body, ¬ IsInterface descriptor) :
    nearestInterface (earlier ++ setting :: body) = some setting := by
  have none : body.filter (fun descriptor => IsInterface descriptor) = [] :=
    List.filter_eq_nil_iff.mpr fun descriptor member => by simpa using plain descriptor member
  rw [nearestInterface, List.filter_append, List.filter_cons, if_pos (decide_eq_true isInterface),
    none, List.getLast?_concat]

theorem plain_of_nearestInterface {earlier body : List (List UInt8)} {setting : List UInt8}
    (nine : ∀ descriptor ∈ nearestInterface (earlier ++ setting :: body), descriptor.length = 9)
    (last : ∀ descriptor ∈ body, ¬ (IsInterface descriptor ∧ descriptor.length = 9)) :
    ∀ descriptor ∈ body, ¬ IsInterface descriptor := by
  intro descriptor member isInterface
  have present : descriptor ∈ body.filter fun other => IsInterface other :=
    List.mem_filter.mpr ⟨member, decide_eq_true isInterface⟩
  have found := List.getLast?_eq_some_getLast (List.ne_nil_of_mem present)
  obtain ⟨inside, is⟩ := List.mem_filter.mp (List.mem_of_getLast? found)
  refine last _ inside ⟨of_decide_eq_true is, nine _ ?_⟩
  rw [nearestInterface, List.append_cons, List.filter_append, List.getLast?_append, found]
  rfl

/-- **The endpoint at which the search stops is paired with its own alternate setting** exactly when
the interface descriptor nearest before the first endpoint that completes a setting has nine bytes. -/
theorem pairs_iff (discovered : AudioInputInterface.discover bytes = .ok interface) :
    (PairsWhereItStops bytes interface ↔ NearestHasNineBytes bytes) ∧
      (NearestHasNineBytes bytes → PairsSomewhere bytes interface) := by
  obtain ⟨header, -, runs⟩ := bind_eq_ok.mp discovered
  obtain ⟨iter, created, runs⟩ := bind_eq_ok.mp runs
  obtain ⟨before, endpoint, after, split, -, stops, isEndpoint, setting, first⟩ :=
    searchFrom_stops seen_nil told_nil atEach_nil runs
  rw [List.nil_append] at setting first
  have split : descriptorsOf bytes = before ++ endpoint :: after := by
    rw [descriptorsOf_eq_yielded (convert_eq_ok.mp created), split]
  have pairs (nine : NearestHasNineBytes bytes) :
      ∃ earlier setting body, Pairs before endpoint interface earlier setting body := by
    obtain ⟨others, other, rest, split', first', nine⟩ := nine
    obtain ⟨rfl, rfl⟩ := first_unique first.1 (not_not_intro first.2) first'.1
      (not_not_intro first'.2) (split.symm.trans split')
    obtain ⟨earlier, opening, body, rfl, isSetting, last, hasFormat⟩ := setting
    exact ⟨earlier, opening, body, rfl, isSetting, hasFormat, isEndpoint,
      plain_of_nearestInterface nine last⟩
  refine ⟨⟨?_, fun nine => ?_⟩, fun nine => ?_⟩
  · rintro ⟨others, other, rest, earlier, opening, body, split', stops', pairs⟩
    obtain ⟨rfl, rfl⟩ := stops.unique stops' (split.symm.trans split')
    refine ⟨before, endpoint, after, split, first, fun descriptor nearest => ?_⟩
    rw [pairs.split, nearestInterface_of_plain pairs.isSetting.isInterface pairs.plain] at nearest
    cases nearest
    exact pairs.isSetting.nine
  · obtain ⟨earlier, opening, body, pairs⟩ := pairs nine
    exact ⟨before, endpoint, after, earlier, opening, body, split, stops, pairs⟩
  · obtain ⟨earlier, opening, body, pairs⟩ := pairs nine
    exact ⟨before, endpoint, after, earlier, opening, body, split, pairs⟩

/-- The capture interface of the headset that the driver's own tests describe. -/
def captureConfiguration : List UInt8 := List.flatten [
  [9, 2, 48, 0, 1, 1, 0, 0x80, 50],
  [9, 4, 2, 1, 1, 1, 2, 0, 0],
  [7, 0x24, 1, 7, 1, 1, 0],
  [14, 0x24, 2, 1, 1, 2, 16, 2, 0x80, 0xbb, 0, 0x44, 0xac, 0],
  [9, 5, 0x82, 0x0d, 100, 0, 1, 0, 0]]

/-- What discovery finds there. -/
def captureInterface : AudioInputInterface :=
  ⟨⟨48, 1, 1, 0, 0x80, 100⟩, 2, 1, 0x82, 100, 1, 1, 2, 16⟩

theorem pairs_iff_capture :
    (PairsWhereItStops captureConfiguration captureInterface ↔
        NearestHasNineBytes captureConfiguration) ∧
      (NearestHasNineBytes captureConfiguration →
        PairsSomewhere captureConfiguration captureInterface) :=
  pairs_iff (by rfl)

/-- The format and the endpoint follow an interface descriptor of eight bytes. -/
def malformedConfiguration : List UInt8 := List.flatten [
  [9, 2, 56, 0, 2, 1, 0, 0x80, 50],
  [9, 4, 2, 1, 1, 1, 2, 0, 0],
  [7, 0x24, 1, 7, 1, 1, 0],
  [8, 4, 3, 1, 1, 1, 2, 0],
  [14, 0x24, 2, 1, 1, 2, 16, 2, 0x80, 0xbb, 0, 0x44, 0xac, 0],
  [9, 5, 0x82, 0x0d, 100, 0, 1, 0, 0]]

theorem not_pairsSomewhere :
    ¬ ∀ (bytes : List UInt8) (interface : AudioInputInterface),
      AudioInputInterface.discover bytes = .ok interface → PairsSomewhere bytes interface := by
  intro always
  obtain ⟨before, endpoint, after, earlier, setting, body, split, pairs⟩ :=
    always malformedConfiguration ⟨⟨56, 2, 1, 0, 0x80, 100⟩, 2, 1, 0x82, 100, 1, 1, 2, 16⟩ rfl
  have nearest : nearestInterface before = some setting := by
    rw [pairs.split]
    exact nearestInterface_of_plain pairs.isSetting.isInterface pairs.plain
  have here : (descriptorsOf malformedConfiguration)[before.length]? = some endpoint := by
    rw [split, List.getElem?_append_right (Nat.le_refl _), Nat.sub_self, List.getElem?_cons_zero]
  have front : (descriptorsOf malformedConfiguration).take before.length = before := by
    rw [split, List.take_left]
  have inside : before.length < 6 := (List.getElem?_eq_some_iff.mp here).1
  -- before the only endpoint, the nearest interface descriptor has eight bytes
  have never : ∀ k < 6, ∀ found ∈ (descriptorsOf malformedConfiguration)[k]?,
      found[1]? = some descriptorTypeEndpoint →
      ∀ interface ∈ nearestInterface ((descriptorsOf malformedConfiguration).take k),
        interface.length ≠ 9 := by
    decide
  rw [← front] at nearest
  exact never _ inside endpoint here pairs.isEndpoint.kind setting nearest pairs.isSetting.nine

end Discovered

end PioUsbHost.Audio
