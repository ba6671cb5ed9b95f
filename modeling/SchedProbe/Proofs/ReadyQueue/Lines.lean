import SchedProbe.Failure
import SchedProbe.Proofs.Text.Columns

/-! Lines of the ready queue tell the queue. A chain is shown in a line and in the message of a fault; both are its
first id with a link to each further one, so the line is the text of the message behind spaces, and the ids are
read off it one after the other. -/

set_option autoImplicit false

namespace SchedProbe.ReadyQueue

/-! ## Chains -/

def links (ids : List TaskId) : List Char :=
  ids.flatMap fun id => " -> ".toList ++ Nat.toDigits 10 id.toNat

theorem links_cons (id : TaskId) (rest : List TaskId) :
    links (id :: rest) = " -> ".toList ++ (Nat.toDigits 10 id.toNat ++ links rest) := by
  rw [links, List.flatMap_cons, List.append_assoc]
  rfl

theorem toList_chainText_cons (first : TaskId) (rest : List TaskId) :
    (chainText (first :: rest)).toList = Nat.toDigits 10 first.toNat ++ links rest := by
  induction rest generalizing first with
  | nil =>
    have alone : chainText [first] = Text.decimal first.toNat :=
      String.intercalate_singleton (s := " -> ")
    rw [alone, Text.toList_decimal]
    exact (List.append_nil _).symm
  | cons next rest ih =>
    have joined : chainText (first :: next :: rest) = Text.decimal first.toNat ++ " -> " ++ chainText (next :: rest) :=
      String.intercalate_cons_cons
    rw [joined, String.toList_append, String.toList_append, Text.toList_decimal, ih, links_cons, List.append_assoc]

theorem toList_foldl_links (line : String) (ids : List TaskId) :
    (ids.foldl (fun line id => line ++ " -> " ++ Text.decimal id.toNat) line).toList = line.toList ++ links ids := by
  induction ids generalizing line with
  | nil => exact (List.append_nil _).symm
  | cons id rest ih =>
    rw [List.foldl_cons, ih, links_cons, String.toList_append, String.toList_append, Text.toList_decimal]
    simp only [List.append_assoc]

/-- The line of a chain shows the text of the chain behind spaces. -/
theorem toList_chainLine (ids : List TaskId) :
    ∃ k, (chainLine ids).toList = List.replicate k ' ' ++ (chainText ids).toList := by
  cases ids with
  | nil => exact ⟨2, rfl⟩
  | cons first rest =>
    refine ⟨2 + (2 - (Text.decimal first.toNat).length), ?_⟩
    rw [chainLine, toList_foldl_links, toList_chainText_cons, String.toList_append, Text.toList_alignRight,
      Text.toList_decimal, ← List.replicate_append_replicate]
    simp only [List.append_assoc]
    rfl

theorem head?_chainText (ids : List TaskId) : (chainText ids).toList.head? ≠ some ' ' := by
  cases ids with
  | nil => decide
  | cons first rest =>
    have number : Text.Word (Nat.toDigits 10 first.toNat) := Text.word_toDigits (by decide) (by decide) _
    obtain ⟨c, cs, digits⟩ := List.exists_cons_of_ne_nil number.nonempty
    rw [toList_chainText_cons, digits, List.cons_append, List.head?_cons]
    rintro ⟨⟩
    exact number.solid (digits ▸ List.mem_cons_self)

def withoutIndent (line : String) : String :=
  String.ofList (line.toList.dropWhile (· == ' '))

theorem withoutIndent_chainLine (ids : List TaskId) : withoutIndent (chainLine ids) = chainText ids := by
  obtain ⟨k, line⟩ := toList_chainLine ids
  rw [withoutIndent, line, Text.dropWhile_spaces k (head?_chainText ids), String.ofList_toList]

theorem takeWhile_number (id : TaskId) (rest : List TaskId) :
    (Nat.toDigits 10 id.toNat ++ links rest).takeWhile Char.isDigit = Nat.toDigits 10 id.toNat := by
  have ends : (links rest).takeWhile Char.isDigit = [] := by
    cases rest with
    | nil => rfl
    | cons next rest =>
      rw [links_cons]
      rfl
  rw [List.takeWhile_append_of_pos fun _ => Text.isDigit_of_mem_decimal, ends, List.append_nil]

theorem number_unique {id id' : TaskId} {rest rest' : List TaskId}
    (same : Nat.toDigits 10 id.toNat ++ links rest = Nat.toDigits 10 id'.toNat ++ links rest') :
    id = id' ∧ links rest = links rest' := by
  have digits := congrArg (List.takeWhile Char.isDigit) same
  rw [takeWhile_number, takeWhile_number] at digits
  obtain rfl : id = id' := UInt16.toNat_inj.1 (Text.decimal_inj (congrArg String.ofList digits))
  exact ⟨rfl, List.append_cancel_left same⟩

-- By induction on the ids: a number ends where no digit follows, and behind it a link begins or the chain ends.
theorem ids_unique {first first' : TaskId} {rest rest' : List TaskId}
    (same : Nat.toDigits 10 first.toNat ++ links rest = Nat.toDigits 10 first'.toNat ++ links rest') :
    first = first' ∧ rest = rest' := by
  induction rest generalizing first first' rest' with
  | nil =>
    obtain ⟨rfl, ends⟩ := number_unique same
    cases rest' with
    | nil => exact ⟨rfl, rfl⟩
    | cons next' rest' =>
      rw [links_cons] at ends
      exact absurd ends (List.cons_ne_nil _ _).symm
  | cons next rest ih =>
    obtain ⟨rfl, behind⟩ := number_unique same
    cases rest' with
    | nil =>
      rw [links_cons] at behind
      exact absurd behind (List.cons_ne_nil _ _)
    | cons next' rest' =>
      rw [links_cons, links_cons] at behind
      obtain ⟨rfl, rfl⟩ := ih (List.append_cancel_left behind)
      exact ⟨rfl, rfl⟩

theorem chainText_injective {ids ids' : List TaskId} (same : chainText ids = chainText ids') : ids = ids' := by
  have numbered : ∀ (first : TaskId) (rest : List TaskId), chainText [] ≠ chainText (first :: rest) := by
    intro first rest same
    have digits := congrArg (fun text : String => text.toList.takeWhile Char.isDigit) same
    simp only [toList_chainText_cons, takeWhile_number] at digits
    exact Nat.toDigits_ne_nil digits.symm
  cases ids with
  | nil =>
    cases ids' with
    | nil => rfl
    | cons first' rest' => exact absurd same (numbered first' rest')
  | cons first rest =>
    cases ids' with
    | nil => exact absurd same.symm (numbered first rest)
    | cons first' rest' =>
      have text := congrArg String.toList same
      rw [toList_chainText_cons, toList_chainText_cons] at text
      obtain ⟨rfl, rfl⟩ := ids_unique text
      rfl

theorem chainLine_injective {ids ids' : List TaskId} (same : chainLine ids = chainLine ids') : ids = ids' := by
  have text := congrArg withoutIndent same
  rw [withoutIndent_chainLine, withoutIndent_chainLine] at text
  exact chainText_injective text

/-! ## Queues -/

theorem header_unique {head head' tail tail' : TaskId} (same : header head tail = header head' tail') :
    head = head' ∧ tail = tail' := by
  have line := congrArg String.toList same
  have between : "  t: ".toList = ' ' :: " t: ".toList := rfl
  simp only [header, String.toList_append, between, List.append_assoc, List.cons_append] at line
  obtain ⟨heads, behind⟩ := Text.firstWord_unique (Text.word_column (by decide) (by decide) 3 _)
    (Text.word_column (by decide) (by decide) 3 _) (List.append_cancel_left line)
  exact ⟨UInt16.toNat_inj.1 (Text.column_injective (by decide) (by decide) heads),
    UInt16.toNat_inj.1 (Text.column_injective (by decide) (by decide) (List.append_cancel_left behind))⟩

theorem lines_unique {head head' tail tail' : TaskId} {walk walk' : Walk}
    (same : lines head tail walk = lines head' tail' walk') : head = head' ∧ tail = tail' ∧ walk = walk' := by
  obtain ⟨headers, same⟩ := List.cons.inj same
  obtain ⟨chains, warnings⟩ := List.cons.inj same
  obtain ⟨rfl, rfl⟩ := header_unique headers
  obtain ⟨ids, tailMatches⟩ := walk
  obtain ⟨ids', tailMatches'⟩ := walk'
  obtain rfl : ids = ids' := chainLine_injective chains
  -- Whether the tail is the last id shows in whether there is a third line.
  cases tailMatches with
  | true =>
    cases tailMatches' with
    | true => exact ⟨rfl, rfl, rfl⟩
    | false => exact absurd warnings (List.cons_ne_nil _ _).symm
  | false =>
    cases tailMatches' with
    | true => exact absurd warnings (List.cons_ne_nil _ _)
    | false => exact ⟨rfl, rfl, rfl⟩

theorem Corrupted.lines_unique {queue queue' : Corrupted} (same : queue.lines = queue'.lines) :
    queue.head = queue'.head ∧ queue.tail = queue'.tail ∧ queue.visited = queue'.visited := by
  obtain ⟨headers, same⟩ := List.cons.inj same
  obtain ⟨heads, tails⟩ := header_unique headers
  exact ⟨heads, tails, chainLine_injective (List.cons.inj same).1⟩

/-- The lines of a walked queue tell its ends, all its ids and whether its tail is the last of them. Of a corrupted
queue the lines are the first two that its visited ids would have as a walk, and tell its ends and those ids; its
message shows the chain as the second line does, but for the spaces in front. -/
theorem queue_lossless (head tail head' tail' : TaskId) (walk walk' : Walk) (queue queue' : Corrupted) :
    (lines head tail walk = lines head' tail' walk' ↔ head = head' ∧ tail = tail' ∧ walk = walk') ∧
      (∀ tailMatches, (Failure.corruptedQueue queue).partialLines =
        (lines queue.head queue.tail ⟨queue.visited, tailMatches⟩).take 2) ∧
      ((Failure.corruptedQueue queue).partialLines = (Failure.corruptedQueue queue').partialLines ↔
        queue.head = queue'.head ∧ queue.tail = queue'.tail ∧ queue.visited = queue'.visited) ∧
      (Failure.corruptedQueue queue).message = "ready queue corrupted (" ++ queue.fault.message ++
        "); partial chain: " ++ withoutIndent (chainLine queue.visited) := by
  refine ⟨⟨lines_unique, ?_⟩, fun _ => rfl, ⟨Corrupted.lines_unique, ?_⟩, ?_⟩
  · rintro ⟨rfl, rfl, rfl⟩
    rfl
  · rintro ⟨heads, tails, visited⟩
    change queue.lines = queue'.lines
    rw [Corrupted.lines, Corrupted.lines, heads, tails, visited]
  · rw [withoutIndent_chainLine]
    rfl

end SchedProbe.ReadyQueue
