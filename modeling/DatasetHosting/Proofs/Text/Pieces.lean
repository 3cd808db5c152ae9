import DatasetHosting.Proofs.Text.Slash

/-!
# Proofs/Text/Pieces — the names on a path

A path cut at its slashes has pieces, some of them empty.  Those that are not empty are the names on the
path (`pieces`).  Slashes at either end add none, and a slash between two paths puts the names of one
behind those of the other, however many slashes stand there (`pieces_append_slash`).
-/

namespace DatasetHosting.Text

variable {cs ds piece : List Char}

/-- **The pieces between slashes that are not empty**, in order. -/
def pieces (cs : List Char) : List (List Char) :=
  (cs.splitOn '/').filter (· ≠ [])

/-- **A slash between two paths** leaves the pieces of both. -/
theorem pieces_append_slash (cs ds : List Char) :
    pieces (cs ++ '/' :: ds) = pieces cs ++ pieces ds := by
  rw [pieces, List.splitOn_append_cons_self, List.filter_append, pieces, pieces]

/-- A text without slashes is its only piece. -/
theorem pieces_of_notMem (hsome : piece ≠ []) (h : '/' ∉ piece) : pieces piece = [piece] := by
  rw [pieces, List.splitOn_eq_singleton h]
  exact List.filter_cons_of_pos (decide_eq_true hsome)

/-! ## Slashes at the ends -/

@[simp] theorem pieces_nil : pieces [] = [] := rfl

theorem pieces_replicate_append (n : Nat) (cs : List Char) :
    pieces (List.replicate n '/' ++ cs) = pieces cs := by
  induction n with
  | zero => rfl
  | succ n ih =>
    rw [List.replicate_succ, List.cons_append]
    exact (pieces_append_slash [] _).trans ih

theorem pieces_append_replicate (cs : List Char) (n : Nat) :
    pieces (cs ++ List.replicate n '/') = pieces cs := by
  cases n with
  | zero => rw [List.replicate_zero, List.append_nil]
  | succ n =>
    have hslashes : pieces (List.replicate n '/') = [] := by
      simpa using pieces_replicate_append n []
    rw [List.replicate_succ, pieces_append_slash, hslashes, List.append_nil]

/-- **Slashes in front add no piece**, … -/
@[simp] theorem pieces_dropSlashes (cs : List Char) : pieces (dropSlashes cs) = pieces cs := by
  obtain ⟨n, hn⟩ := exists_replicate_dropSlashes cs
  rw [← pieces_replicate_append n (dropSlashes cs), ← hn]

/-- …nor do slashes behind. -/
@[simp] theorem pieces_dropEndSlashes (cs : List Char) : pieces (dropEndSlashes cs) = pieces cs := by
  obtain ⟨n, hn⟩ := exists_replicate_dropEndSlashes cs
  rw [← pieces_append_replicate (dropEndSlashes cs) n, ← hn]

/-! ## The last piece -/

/-- A text is its last piece, or a front and its last piece behind a slash. -/
theorem eq_or_exists_append_slash (cs : List Char) :
    '/' ∉ cs ∨ ∃ front piece, cs = front ++ '/' :: piece ∧ '/' ∉ piece := by
  by_cases h : '/' ∈ cs
  · obtain ⟨behind, front, hreverse, hnone⟩ :=
      List.eq_append_cons_of_mem (List.mem_reverse.mpr h)
    refine .inr ⟨front.reverse, behind.reverse, ?_, mt List.mem_reverse.mp hnone⟩
    rw [← List.reverse_reverse cs, hreverse]
    simp
  · exact .inl h

theorem lastPiece_of_notMem (h : '/' ∉ cs) : lastPiece cs = cs := by
  have hall : ∀ c ∈ cs.reverse, (c != '/') = true :=
    forall_bne_of_notMem (mt List.mem_reverse.mp h)
  rw [lastPiece, List.takeWhile_eq_self_iff.mpr hall, List.reverse_reverse]

/-- **What does not end in a slash ends in its last piece.** -/
theorem getLast?_pieces (hsome : cs ≠ []) (h : cs.getLast? ≠ some '/') :
    lastPiece cs ≠ [] ∧ (pieces cs).getLast? = some (lastPiece cs) := by
  rcases eq_or_exists_append_slash cs with hnone | ⟨front, piece, rfl, hnone⟩
  · rw [lastPiece_of_notMem hnone, pieces_of_notMem hsome hnone]
    exact ⟨hsome, rfl⟩
  · have hpiece : piece ≠ [] := by
      rintro rfl
      exact h List.getLast?_concat
    rw [lastPiece_append hnone, pieces_append_slash, pieces_of_notMem hpiece hnone,
      List.getLast?_concat]
    exact ⟨hpiece, rfl⟩

/-- **Only slashes have no piece.** -/
theorem pieces_eq_nil_iff : pieces cs = [] ↔ ∀ c ∈ cs, c = '/' := by
  constructor
  · intro hnone
    obtain ⟨n, hn⟩ := exists_replicate_dropEndSlashes cs
    have hnil : dropEndSlashes cs = [] := by
      by_contra hsome
      obtain ⟨-, hlast⟩ := getLast?_pieces hsome (getLast?_dropEndSlashes cs)
      rw [pieces_dropEndSlashes, hnone] at hlast
      cases hlast
    rw [hn, hnil, List.nil_append]
    exact fun _ => List.eq_of_mem_replicate
  · intro h
    rw [List.eq_replicate_of_mem h]
    simpa using pieces_replicate_append cs.length []

end DatasetHosting.Text
