import Depot.Proofs.Body.Labels
import Depot.Proofs.Download.Parts
import Depot.Proofs.Range.Rendering

/-!
# Downloads in pieces

An artifact that is cut into pieces can be fetched whole, piece by piece, or with all pieces in one body, and the
header of that request may name the pieces in any order. `Download.tiling_reassembles` says that a client gets the
same bytes each time, and that a piece bears the same label in a body of its own as among others.
-/

namespace Depot

/-! ## Pieces -/

/-- The first and the last position of each piece into which some cuts divide the positions from `start` on. -/
def tiles (total start : Nat) : List Nat → List (Nat × Nat)
  | [] => [(start, total - 1)]
  | cut :: cuts => (start, cut - 1) :: tiles total cut cuts

section Tiles

variable {total start : Nat} {cuts : List Nat}

theorem length_tiles (total start : Nat) (cuts : List Nat) : (tiles total start cuts).length = cuts.length + 1 := by
  induction cuts generalizing start with
  | nil => rfl
  | cons cut cuts ih => rw [tiles, List.length_cons, ih, List.length_cons]

/-- Cuts in ascending order leave no piece empty. -/
theorem exists_windows_tiles (ascending : (start :: (cuts ++ [total])).Pairwise (· < ·)) :
    ∃ windows : List Window, AscendingFrom start windows ∧ (∀ w ∈ windows, w.total = total) ∧
      windows.map (fun w => (w.first, w.last)) = tiles total start cuts := by
  induction cuts generalizing start with
  | nil =>
    have before : start < total := (List.pairwise_cons.1 ascending).1 total List.mem_cons_self
    refine ⟨[⟨start, total - 1, total, by omega, by omega⟩], ⟨Nat.le_refl _, trivial⟩, ?_, rfl⟩
    exact List.forall_mem_singleton.2 rfl
  | cons cut cuts ih =>
    obtain ⟨above, later⟩ := List.pairwise_cons.1 ascending
    have before : start < cut := above cut List.mem_cons_self
    have inside : cut < total := (List.pairwise_cons.1 later).1 total (List.mem_append_right cuts List.mem_cons_self)
    obtain ⟨windows, ascends, totals, same⟩ := ih later
    have next : cut - 1 + 1 = cut := by omega
    refine ⟨⟨start, cut - 1, total, by omega, by omega⟩ :: windows, ⟨Nat.le_refl _, ?_⟩, ?_, ?_⟩
    · rw [next]
      exact ascends
    · exact List.forall_mem_cons.2 ⟨rfl, totals⟩
    · rw [List.map_cons, same, tiles]

/-- The pieces of a content are all of it. -/
theorem flatten_slices {content : Bytes} (ascending : (start :: (cuts ++ [content.length])).Pairwise (· < ·)) :
    ((tiles content.length start cuts).map fun tile => Bytes.slice content tile.1 tile.2).flatten =
      content.drop start := by
  induction cuts generalizing start with
  | nil =>
    rw [tiles, List.map_singleton, List.flatten_singleton]
    refine List.take_of_length_le ?_
    rw [List.length_drop]
    omega
  | cons cut cuts ih =>
    obtain ⟨above, later⟩ := List.pairwise_cons.1 ascending
    have before : start < cut := above cut List.mem_cons_self
    have front : Bytes.slice content start (cut - 1) = (content.drop start).take (cut - start) := by
      unfold Bytes.slice
      congr 1
      omega
    have back : content.drop cut = (content.drop start).drop (cut - start) := by
      rw [List.drop_drop]
      congr 1
      omega
    rw [tiles, List.map_cons, List.flatten_cons, ih later, front, back, List.take_append_drop]

end Tiles

/-! ## Requests for windows -/

theorem WindowSet.single?_eq_none {set : WindowSet} (several : 2 ≤ set.windows.length) : set.single? = none := by
  obtain ⟨windows, nonempty, ascending⟩ := set
  rcases windows with _ | ⟨v, _ | ⟨w, rest⟩⟩
  · exact absurd rfl nonempty
  · exact absurd several (Nat.not_succ_le_self 1)
  · rfl

/-- The parts that a receiver finds in a body who goes by their labels. -/
def Multipart.receiveLabelled? (head : Head) (body : Bytes) : Option (List Part) :=
  head.boundary?.bind fun boundary => readLabelled? boundary body

namespace Download

/-- A `GET` for a range, or for all, is answered with a download that yields `body`. -/
def Answers (name : String) (artifact : Artifact) (content : Bytes) (range : Option String) (download : Download)
    (body : Bytes) : Prop :=
  frame? name artifact ⟨.get, range, none⟩ = some download ∧ download.Yields content body

variable {artifact : Artifact} {content : Bytes}

theorem answers_whole (size : artifact.size = content.length) (dated : artifact.Dated) (name : String) :
    ∃ download, Answers name artifact content none download content := by
  obtain ⟨download, framed⟩ := exists_frame? dated name ⟨.get, none, none⟩
  have shape : download.shape = .whole artifact.size := shape_of_frame? framed
  have yields := yields_of_frame? framed size
  rw [shape] at yields
  exact ⟨download, framed, yields⟩

/-- The request for one window is answered with its bytes under its label. -/
structure AnswersAlone (name : String) (artifact : Artifact) (content : Bytes) (w : Window)
    (single : Download × Bytes) : Prop where
  answers : Answers name artifact content (some (RangeHeader.text [w.spec])) single.1 single.2
  body : single.2 = Bytes.slice content w.first w.last
  label : single.1.head.fields.get? "content-range" = some (utf8 w.contentRange)

theorem exists_answersAlone (size : artifact.size = content.length) (small : content.length < positionBound)
    (dated : artifact.Dated) (name : String) {w : Window} (inside : w.total = content.length) :
    ∃ single, AnswersAlone name artifact content w single := by
  let set : WindowSet := ⟨[w], List.cons_ne_nil w [], Nat.zero_le w.first, trivial⟩
  have inSet : ∀ v ∈ set.windows, v.total = artifact.size := List.forall_mem_singleton.2 (inside.trans size.symm)
  have served : RangeHeader.windows (RangeHeader.text ([w].map Window.spec)) artifact.size = .ok set :=
    RangeHeader.windows_text inSet (Nat.le_of_lt (size ▸ small)) (.refl set.windows)
  rw [List.map_singleton] at served
  obtain ⟨download, framed⟩ := exists_frame? dated name ⟨.get, some (RangeHeader.text [w.spec]), none⟩
  have shape : download.shape = .single w := by
    rw [shape_of_frame? framed, Choice.of_windows served]
    rfl
  have yields := yields_of_frame? framed size
  obtain ⟨date, -, -, head⟩ := frame?_eq_some_iff.1 framed
  rw [shape] at yields head
  exact ⟨(download, _), ⟨framed, yields⟩, rfl, by simp [head, Head.withShape]⟩

theorem exists_forall₂_answersAlone (size : artifact.size = content.length)
    (small : content.length < positionBound) (dated : artifact.Dated) (name : String) {windows : List Window}
    (inside : ∀ w ∈ windows, w.total = content.length) :
    ∃ singles, List.Forall₂ (AnswersAlone name artifact content) windows singles := by
  induction windows with
  | nil => exact ⟨[], .nil⟩
  | cons w rest ih =>
    obtain ⟨first, others⟩ := List.forall_mem_cons.1 inside
    obtain ⟨single, alone⟩ := exists_answersAlone size small dated name first
    obtain ⟨singles, later⟩ := ih others
    exact ⟨single :: singles, .cons alone later⟩

/-- A request for several windows yields a body in which each is found by its label. -/
theorem exists_answers_parts (size : artifact.size = content.length) (dated : artifact.Dated) (name : String)
    {range : String} {set : WindowSet} (served : RangeHeader.windows range artifact.size = .ok set)
    (several : 2 ≤ set.windows.length) :
    ∃ download body, Answers name artifact content (some range) download body ∧
      Multipart.receiveLabelled? download.head body = some (set.windows.map (.ofWindow content)) := by
  obtain ⟨download, framed⟩ := exists_frame? dated name ⟨.get, some range, none⟩
  have divided : download.shape = .parts set := by
    rw [shape_of_frame? framed, Choice.of_windows served]
    simp only [Choice.shape, WindowSet.single?_eq_none several]
  have inside : ∀ w ∈ set.windows, w.total = content.length := size ▸ RangeHeader.total_of_windows served
  refine ⟨download, _, ⟨framed, yields_of_frame? framed size⟩, ?_⟩
  rw [Multipart.receiveLabelled?, boundary?_of_frame? framed divided, Option.bind_some, divided]
  exact Multipart.readLabelled?_body set.nonempty inside

/-- However an artifact is cut into two pieces or more: the pieces that are asked for one by one, put together in
order, are the artifact as it is sent whole; and a request that names all of them, in any order, is answered with a
body whose parts are, by their labels, the same pieces in order, each under the label that it bears alone. -/
theorem tiling_reassembles {name : String} (size : artifact.size = content.length)
    (small : content.length < positionBound) (dated : artifact.Dated) {cuts : List Nat} (several : cuts ≠ [])
    (ascending : (0 :: (cuts ++ [content.length])).Pairwise (· < ·)) {order : List (Nat × Nat)}
    (perm : order.Perm (tiles content.length 0 cuts)) :
    ∃ (whole divided : Download) (body : Bytes) (singles : List (Download × Bytes)) (parts : List Multipart.Part),
      Answers name artifact content none whole content ∧
      List.Forall₂ (fun tile single => Answers name artifact content
        (some (RangeHeader.text [.between tile.1 tile.2])) single.1 single.2)
          (tiles content.length 0 cuts) singles ∧
      (singles.map Prod.snd).flatten = content ∧
      Answers name artifact content (some (RangeHeader.text (order.map fun tile => .between tile.1 tile.2)))
        divided body ∧
      Multipart.receiveLabelled? divided.head body = some parts ∧
      parts.map Multipart.Part.content = singles.map Prod.snd ∧
      List.Forall₂ (fun single part => ∃ label,
        single.1.head.fields.get? "content-range" = some label ∧ part.value? "Content-Range" = some label)
          singles parts := by
  obtain ⟨windows, ascends, inside, same⟩ := exists_windows_tiles ascending
  have count : windows.length = cuts.length + 1 := by
    rw [← length_tiles content.length 0 cuts, ← same, List.length_map]
  have two : 2 ≤ windows.length := by
    have := List.length_pos_iff.2 several
    omega
  let set : WindowSet := ⟨windows, List.ne_nil_of_length_pos (by omega), ascends⟩
  obtain ⟨whole, answersWhole⟩ := answers_whole size dated name
  obtain ⟨singles, alone⟩ := exists_forall₂_answersAlone size small dated name inside
  -- The pieces in the order of the header, as windows.
  have pieces : List.Forall₂ (fun tile w => tile = (Window.first w, Window.last w))
      (tiles content.length 0 cuts) windows := by
    rw [← same, List.forall₂_map_left_iff, List.forall₂_same]
    exact fun _ _ => rfl
  obtain ⟨ordered, named, permuted⟩ := List.perm_comp_forall₂ perm pieces
  have specs : (order.map fun tile => Spec.between tile.1 tile.2) = ordered.map Window.spec := by
    rw [← List.forall₂_eq_eq_eq, List.forall₂_map_left_iff, List.forall₂_map_right_iff]
    exact named.imp fun tile w same => by rw [same]; rfl
  have served : RangeHeader.windows (RangeHeader.text (ordered.map Window.spec)) artifact.size = .ok set :=
    RangeHeader.windows_text (size ▸ inside) (Nat.le_of_lt (size ▸ small)) permuted
  obtain ⟨divided, body, answersDivided, received⟩ := exists_answers_parts size dated name served two
  have bodies : windows.map (fun w => Bytes.slice content w.first w.last) = singles.map Prod.snd := by
    rw [← List.forall₂_eq_eq_eq, List.forall₂_map_left_iff, List.forall₂_map_right_iff]
    exact alone.imp fun w single alone => alone.body.symm
  refine ⟨whole, divided, body, singles, _, answersWhole, ?_, ?_, specs ▸ answersDivided, received, ?_, ?_⟩
  · rw [← same, List.forall₂_map_left_iff]
    exact alone.imp fun w single alone => alone.answers
  · have joined := flatten_slices ascending
    rw [← same, List.map_map, List.drop_zero] at joined
    rw [← bodies]
    exact joined
  · rw [← bodies, List.map_map]
    rfl
  · rw [List.forall₂_map_right_iff]
    exact alone.flip.imp fun single w alone => ⟨_, alone.label, Multipart.value?_ofWindow content w⟩

/-- Three bytes are cut into single ones, and the last is named first. -/
theorem tiling_reassembles_bytes :
    (3 < positionBound ∧ (Artifact.mk 3 "v1" none).Dated ∧ (0 :: ([1, 2] ++ [3])).Pairwise (· < ·) ∧
        [(2, 2), (0, 0), (1, 1)].Perm (tiles 3 0 [1, 2])) ∧
      ∃ (whole divided : Download) (body : Bytes) (parts : List Multipart.Part),
        Answers "a.bin" ⟨3, "v1", none⟩ [7, 8, 9] none whole [7, 8, 9] ∧
        Answers "a.bin" ⟨3, "v1", none⟩ [7, 8, 9] (some "bytes=2-2,0-0,1-1") divided body ∧
        Multipart.receiveLabelled? divided.head body = some parts ∧
        (parts.map Multipart.Part.content).flatten = [7, 8, 9] := by
  have size : (Artifact.mk 3 "v1" none).size = [7, 8, (9 : UInt8)].length := rfl
  have small : 3 < positionBound := by decide
  have dated : (Artifact.mk 3 "v1" none).Dated := by
    rintro moment ⟨⟩
  have ascending : (0 :: ([1, 2] ++ [3])).Pairwise (· < ·) := by decide
  have perm : [(2, 2), (0, 0), (1, 1)].Perm (tiles 3 0 [1, 2]) := by decide
  obtain ⟨whole, divided, body, singles, parts, all, -, joined, several, received, same, -⟩ :=
    tiling_reassembles size small dated (List.cons_ne_nil 1 [2]) ascending perm
  exact ⟨⟨small, dated, ascending, perm⟩, whole, divided, body, parts, all, several, received, same ▸ joined⟩

end Download

end Depot
