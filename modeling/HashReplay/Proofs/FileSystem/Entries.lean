import HashReplay.FileSystem

/-!
# What opening and writing change

Opening a file for writing and writing to it change one entry, at the path that the file was opened
under, and leave every other entry and the working directory as they are.  That path depends only on the
written path and the working directory, not on the entries.

## Main results

* `lookup_put_self`, `lookup_put_of_ne` — an entry that was put in, and all others.
* `locate_leadsTo` — a written path leads to its absolute path, if it leads anywhere.
* `create_ok`, `writeAt_ok` — all that opening and writing can do.
* `overlay_length` — bytes written at the end of others follow them.
-/

namespace HashReplay.FileSystem

variable {fs fs' : FileSystem} {p q : Path}

/-! ### Entries -/

theorem find?_putEntry_self (p : Path) (n : Node) (es : List (Path × Node)) :
    (putEntry p n es).find? (fun e => e.1 == p) = some (p, n) := by
  induction es with
  | nil => simp [putEntry]
  | cons e es ih =>
    rw [putEntry]
    split
    · simp
    · rename_i hne
      rw [List.find?_cons_of_neg (by exact hne)]
      exact ih

theorem find?_putEntry_of_ne (h : q ≠ p) (n : Node) (es : List (Path × Node)) :
    (putEntry p n es).find? (fun e => e.1 == q) = es.find? fun e => e.1 == q := by
  have hnew : ¬((p, n).1 == q) = true := by simpa using Ne.symm h
  induction es with
  | nil => rw [putEntry, List.find?_cons_of_neg (by exact hnew)]
  | cons e es ih =>
    rw [putEntry]
    split
    · rename_i hsame
      have hold : ¬(e.1 == q) = true := by
        rw [eq_of_beq hsame]
        exact hnew
      rw [List.find?_cons_of_neg (by exact hnew), List.find?_cons_of_neg (by exact hold)]
    · by_cases he : (e.1 == q) = true
      · rw [List.find?_cons_of_pos (by exact he), List.find?_cons_of_pos (by exact he)]
      · rw [List.find?_cons_of_neg (by exact he), List.find?_cons_of_neg (by exact he), ih]

/-- **An entry that was put in is found.** -/
theorem lookup_put_self (hp : p ≠ []) (n : Node) : (fs.put p n).lookup p = some n := by
  rw [lookup, if_neg hp, put]
  simp only [find?_putEntry_self, Option.map_some]

/-- **Every other entry is found as before.** -/
theorem lookup_put_of_ne (h : q ≠ p) (n : Node) : (fs.put p n).lookup q = fs.lookup q := by
  rw [lookup, lookup, put]
  simp only [find?_putEntry_of_ne h]

/-! ### Where paths lead -/

/-- What one name of a written path does to the path from the root. -/
def descend (here : Path) (n : String) : Path :=
  if n = "." then here else if n = ".." then here.dropLast else here ++ [n]

theorem absolute_eq (fs : FileSystem) (path : String) :
    fs.absolute path =
      (names path).foldl descend (if path.toList.head? = some '/' then [] else fs.workingDirectory) :=
  rfl

/-- A place is at the path `target`, and below the root, unless it is a directory. -/
def LeadsTo (fs : FileSystem) (target : Path) : Place → Prop
  | .free p => p = target ∧ p ≠ []
  | .found p n => n ≠ .directory → p = target ∧ p ≠ [] ∧ fs.lookup p = some n

/-- Following names leads to the path of these names. -/
theorem follow_leadsTo {here : Path} {ns : List String} {place : Place}
    (h : fs.follow here ns = .ok place) : LeadsTo fs (ns.foldl descend here) place := by
  induction ns generalizing here with
  | nil =>
    cases h
    exact fun hne => absurd rfl hne
  | cons m ns ih =>
    have hbelow : here ++ [m] ≠ [] := List.append_ne_nil_of_right_ne_nil _ (List.cons_ne_nil m [])
    rw [List.foldl_cons]
    unfold follow at h
    split at h
    · rw [descend, if_pos ‹_›]
      exact ih h
    split at h
    · rw [descend, if_neg ‹_›, if_pos ‹_›]
      exact ih h
    rw [descend, if_neg ‹_›, if_neg ‹_›]
    split at h
    · cases h
    split at h
    · cases h
      exact ⟨rfl, hbelow⟩
    · cases h
    · exact ih h
    · rename_i hentry
      cases h
      exact fun _ => ⟨rfl, hbelow, hentry⟩
    · cases h

/-- **A written path leads to its absolute path**, if it leads to a free name or to something other than
a directory. -/
theorem locate_leadsTo {path : String} {place : Place} (h : fs.locate path = .ok place) :
    LeadsTo fs (fs.absolute path) place := by
  unfold locate at h
  split at h
  · cases h
  split at h
  · cases h
  split at h
  · cases h
  · exact follow_leadsTo h

/-! ### Opening and writing -/

/-- A device takes what is written, or refuses it, and keeps nothing. -/
def IsDevice (n : Option Node) : Prop := n = some .nullDevice ∨ n = some .fullDevice

/-- **All that opening a file for writing can do**: the path leads to an empty file, or to a device that
is left as it is. -/
theorem create_ok {path : String} (h : fs.create path = .ok (p, fs')) :
    p = fs.absolute path ∧ p ≠ [] ∧
      (fs' = fs.put p (.file []) ∨ fs' = fs ∧ IsDevice (fs.lookup p)) := by
  unfold create at h
  split at h
  · cases h
  · rename_i p' hlocate
    split at h
    · cases h
    · cases h
      obtain ⟨hpath, hbelow⟩ := locate_leadsTo hlocate
      exact ⟨hpath, hbelow, Or.inl rfl⟩
  · rename_i p' n hlocate
    have hleads := locate_leadsTo hlocate
    split at h
    · cases h
    split at h
    · cases h
    · cases h
      obtain ⟨hpath, hbelow, -⟩ := hleads (by simp)
      exact ⟨hpath, hbelow, Or.inl rfl⟩
    · cases h
      obtain ⟨hpath, hbelow, hentry⟩ := hleads (by simp)
      exact ⟨hpath, hbelow, Or.inr ⟨rfl, Or.inl hentry⟩⟩
    · cases h
      obtain ⟨hpath, hbelow, hentry⟩ := hleads (by simp)
      exact ⟨hpath, hbelow, Or.inr ⟨rfl, Or.inr hentry⟩⟩
    · cases h

/-- **All that writing can do**: the bytes of a file change, or a device takes the bytes. -/
theorem writeAt_ok {offset : Nat} {new : List UInt8} (h : fs.writeAt p offset new = .ok fs') :
    (∃ bytes, fs.lookup p = some (.file bytes) ∧ fs' = fs.put p (.file (overlay bytes offset new))) ∨
      fs.lookup p = some .nullDevice ∧ fs' = fs := by
  rw [writeAt] at h
  split at h
  · rename_i bytes hentry
    cases h
    exact Or.inl ⟨bytes, hentry, rfl⟩
  · rename_i hentry
    cases h
    exact Or.inr ⟨hentry, rfl⟩
  all_goals cases h

/-- Bytes written at the end of others follow them. -/
theorem overlay_length (bytes new : List UInt8) : overlay bytes bytes.length new = bytes ++ new := by
  have hdrop : bytes.drop (bytes.length + new.length) = [] := List.drop_eq_nil_of_le (by omega)
  rw [overlay, List.take_length, Nat.sub_self, hdrop]
  simp

/-- Opening a file leaves every other entry as it is, and the working directory. -/
theorem create_frame {path : String} (h : fs.create path = .ok (p, fs')) :
    fs'.workingDirectory = fs.workingDirectory ∧ ∀ q, q ≠ p → fs'.lookup q = fs.lookup q := by
  obtain ⟨-, -, rfl | ⟨rfl, -⟩⟩ := create_ok h
  · exact ⟨rfl, fun q hq => lookup_put_of_ne hq _⟩
  · exact ⟨rfl, fun _ _ => rfl⟩

/-- Writing leaves every other entry as it is, and the working directory. -/
theorem writeAt_frame {offset : Nat} {new : List UInt8} (h : fs.writeAt p offset new = .ok fs') :
    fs'.workingDirectory = fs.workingDirectory ∧ ∀ q, q ≠ p → fs'.lookup q = fs.lookup q := by
  rcases writeAt_ok h with ⟨bytes, -, rfl⟩ | ⟨-, rfl⟩
  · exact ⟨rfl, fun q hq => lookup_put_of_ne hq _⟩
  · exact ⟨rfl, fun _ _ => rfl⟩

/-- The absolute path of a written path depends only on the working directory. -/
theorem absolute_congr (h : fs'.workingDirectory = fs.workingDirectory) (path : String) :
    fs'.absolute path = fs.absolute path := by
  rw [absolute_eq, absolute_eq, h]

end HashReplay.FileSystem
