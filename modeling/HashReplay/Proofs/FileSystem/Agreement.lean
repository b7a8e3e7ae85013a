import HashReplay.Proofs.FileSystem.Entries
import HashReplay.Runner

/-!
# File systems that agree but for one file

Two file systems may differ in the bytes of one file and in nothing else.  Whatever is done to both of
them, it is answered the same and leaves two file systems that agree in this way again: a path leads to
the same place, opening a file makes it empty in both, and writing either fails in both or in neither.

A runner overlooks that file if its answers are the same on both sides.

## Main definitions

* `FileSystem.AgreeBut` — agreement but for the bytes of one file.
* `Runner.Respects`, `Runner.Overlooks` — answers that do not depend on those bytes.

## Main results

* `FileSystem.AgreeBut.locate` — written paths lead to the same places.
* `FileSystem.AgreeBut.create`, `FileSystem.AgreeBut.writeAt` — opening and writing keep the agreement.
-/

namespace HashReplay

namespace FileSystem

variable {fs fs' : FileSystem} {p q : Path}

/-- Two entries are the same, or both are files. -/
def SameKind (n n' : Option Node) : Prop :=
  n = n' ∨ ∃ bytes bytes', n = some (.file bytes) ∧ n' = some (.file bytes')

/-- Two file systems agree but for the bytes of the file at `p`. -/
structure AgreeBut (p : Path) (fs fs' : FileSystem) : Prop where
  workingDirectory : fs.workingDirectory = fs'.workingDirectory
  elsewhere : ∀ q, q ≠ p → fs.lookup q = fs'.lookup q
  there : SameKind (fs.lookup p) (fs'.lookup p)

@[refl] theorem AgreeBut.refl (p : Path) (fs : FileSystem) : AgreeBut p fs fs :=
  ⟨rfl, fun _ _ => rfl, Or.inl rfl⟩

@[symm] theorem AgreeBut.symm (h : AgreeBut p fs fs') : AgreeBut p fs' fs := by
  refine ⟨h.workingDirectory.symm, fun q hq => (h.elsewhere q hq).symm, ?_⟩
  rcases h.there with hsame | ⟨bytes, bytes', hfile, hfile'⟩
  · exact Or.inl hsame.symm
  · exact Or.inr ⟨bytes', bytes, hfile', hfile⟩

/-- Where the file systems differ, there are two files at `p`. -/
theorem AgreeBut.lookup (h : AgreeBut p fs fs') (q : Path) :
    fs.lookup q = fs'.lookup q ∨
      q = p ∧ ∃ bytes bytes', fs.lookup q = some (.file bytes) ∧ fs'.lookup q = some (.file bytes') := by
  by_cases hq : q = p
  · rw [hq]
    rcases h.there with hsame | hfiles
    · exact Or.inl hsame
    · exact Or.inr ⟨rfl, hfiles⟩
  · exact Or.inl (h.elsewhere q hq)

/-- The root is no file. -/
theorem ne_nil_of_lookup_file {bytes : List UInt8} (h : fs.lookup q = some (.file bytes)) : q ≠ [] := by
  intro hroot
  rw [hroot, FileSystem.lookup, if_pos rfl] at h
  cases h

/-! ### Entries put in -/

/-- The same entry is put into both. -/
theorem AgreeBut.put (h : AgreeBut p fs fs') (hq : q ≠ []) (n : Node) :
    AgreeBut p (fs.put q n) (fs'.put q n) := by
  have hlookup (r : Path) (hr : r ≠ q) :
      (fs.put q n).lookup r = fs.lookup r ∧ (fs'.put q n).lookup r = fs'.lookup r :=
    ⟨lookup_put_of_ne hr n, lookup_put_of_ne hr n⟩
  refine ⟨h.workingDirectory, fun r hr => ?_, ?_⟩
  · by_cases hrq : r = q
    · rw [hrq, lookup_put_self hq, lookup_put_self hq]
    · rw [(hlookup r hrq).1, (hlookup r hrq).2, h.elsewhere r hr]
  · by_cases hpq : p = q
    · rw [hpq, lookup_put_self hq, lookup_put_self hq]
      exact Or.inl rfl
    · rw [(hlookup p hpq).1, (hlookup p hpq).2]
      exact h.there

/-- Two files are put in at `p`. -/
theorem AgreeBut.put_files (h : AgreeBut p fs fs') (hp : p ≠ []) (bytes bytes' : List UInt8) :
    AgreeBut p (fs.put p (.file bytes)) (fs'.put p (.file bytes')) := by
  refine ⟨h.workingDirectory, fun r hr => ?_, Or.inr ⟨bytes, bytes', ?_, ?_⟩⟩
  · rw [lookup_put_of_ne hr, lookup_put_of_ne hr, h.elsewhere r hr]
  · exact lookup_put_self hp _
  · exact lookup_put_self hp _

/-- A file takes the place of the file at `p`, on one side only. -/
theorem AgreeBut.put_left (h : AgreeBut p fs fs') {old : List UInt8}
    (hold : fs.lookup p = some (.file old)) (bytes : List UInt8) :
    AgreeBut p (fs.put p (.file bytes)) fs' := by
  have hp := ne_nil_of_lookup_file hold
  obtain ⟨old', hold'⟩ : ∃ old', fs'.lookup p = some (.file old') := by
    rcases h.there with hsame | ⟨-, old', -, hold'⟩
    · exact ⟨old, hsame ▸ hold⟩
    · exact ⟨old', hold'⟩
  refine ⟨h.workingDirectory, fun r hr => ?_, Or.inr ⟨bytes, old', lookup_put_self hp _, hold'⟩⟩
  rw [lookup_put_of_ne hr, h.elsewhere r hr]

/-! ### Paths, opening and writing -/

/-- Names lead to the same place; only the bytes of the file that is found there may differ. -/
theorem AgreeBut.follow (h : AgreeBut p fs fs') : ∀ (ns : List String) (here : Path),
    fs.follow here ns = fs'.follow here ns ∨ ∃ bytes bytes',
      fs.follow here ns = .ok (.found p (.file bytes)) ∧
        fs'.follow here ns = .ok (.found p (.file bytes')) := by
  intro ns
  induction ns with
  | nil => intro here; exact Or.inl rfl
  | cons n ns ih =>
    intro here
    unfold FileSystem.follow
    split
    · exact ih here
    split
    · exact ih here.dropLast
    split
    · exact Or.inl rfl
    rcases h.lookup (here ++ [n]) with hsame | ⟨hp, bytes, bytes', hfile, hfile'⟩
    · rw [hsame]
      cases hentry : fs'.lookup (here ++ [n]) with
      | none => cases ns <;> exact Or.inl rfl
      | some node =>
        cases node with
        | directory => exact ih (here ++ [n])
        | file bytes => cases ns <;> exact Or.inl rfl
        | nullDevice => cases ns <;> exact Or.inl rfl
        | fullDevice => cases ns <;> exact Or.inl rfl
        | program q => cases ns <;> exact Or.inl rfl
    · rw [hfile, hfile']
      cases ns with
      | nil => exact Or.inr ⟨bytes, bytes', by rw [hp], by rw [hp]⟩
      | cons m ms => exact Or.inl rfl

/-- **Written paths lead to the same place**; only the bytes of the file that is found there may
differ. -/
theorem AgreeBut.locate (h : AgreeBut p fs fs') (path : String) :
    fs.locate path = fs'.locate path ∨ ∃ bytes bytes',
      fs.locate path = .ok (.found p (.file bytes)) ∧
        fs'.locate path = .ok (.found p (.file bytes')) := by
  rw [FileSystem.locate, FileSystem.locate, h.workingDirectory]
  split
  · exact Or.inl rfl
  split
  · exact Or.inl rfl
  split
  · exact Or.inl rfl
  exact h.follow _ _

/-- **A file is opened** in both file systems under the same path, or in neither. -/
theorem AgreeBut.create (h : AgreeBut p fs fs') (path : String) :
    (∃ e, fs.create path = .error e ∧ fs'.create path = .error e) ∨
      ∃ q fs₁ fs₁', fs.create path = .ok (q, fs₁) ∧ fs'.create path = .ok (q, fs₁') ∧
        AgreeBut p fs₁ fs₁' := by
  rw [FileSystem.create, FileSystem.create]
  rcases h.locate path with hsame | ⟨bytes, bytes', hfile, hfile'⟩
  · rw [hsame]
    cases hplace : fs'.locate path with
    | error e => exact Or.inl ⟨e, rfl, rfl⟩
    | ok place =>
      have hleads := locate_leadsTo hplace
      by_cases hslash : endsInSlash path = true
      · refine Or.inl ⟨.isADirectory, ?_, ?_⟩ <;> cases place <;> simp only [if_pos hslash]
      cases place with
      | free q =>
        simp only [if_neg hslash]
        exact Or.inr ⟨q, _, _, rfl, rfl, h.put hleads.2 _⟩
      | found q node =>
        simp only [if_neg hslash]
        cases node with
        | directory => exact Or.inl ⟨_, rfl, rfl⟩
        | file bytes => exact Or.inr ⟨q, _, _, rfl, rfl, h.put (hleads nofun).2.1 _⟩
        | nullDevice => exact Or.inr ⟨q, _, _, rfl, rfl, h⟩
        | fullDevice => exact Or.inr ⟨q, _, _, rfl, rfl, h⟩
        | program q => exact Or.inl ⟨_, rfl, rfl⟩
  · have hleads := locate_leadsTo hfile
    rw [hfile, hfile']
    by_cases hslash : endsInSlash path = true
    · exact Or.inl ⟨.isADirectory, by simp only [if_pos hslash], by simp only [if_pos hslash]⟩
    · simp only [if_neg hslash]
      exact Or.inr ⟨p, _, _, rfl, rfl, h.put (hleads nofun).2.1 _⟩

/-- **Bytes are written** in both file systems, or in neither. -/
theorem AgreeBut.writeAt (h : AgreeBut p fs fs') (q : Path) (offset : Nat) (new : List UInt8) :
    (∃ e, fs.writeAt q offset new = .error e ∧ fs'.writeAt q offset new = .error e) ∨
      ∃ fs₁ fs₁', fs.writeAt q offset new = .ok fs₁ ∧ fs'.writeAt q offset new = .ok fs₁' ∧
        AgreeBut p fs₁ fs₁' := by
  rw [FileSystem.writeAt, FileSystem.writeAt]
  rcases h.lookup q with hsame | ⟨rfl, bytes, bytes', hfile, hfile'⟩
  · rw [hsame]
    cases hentry : fs'.lookup q with
    | none => exact Or.inl ⟨_, rfl, rfl⟩
    | some node =>
      cases node with
      | file bytes =>
        exact Or.inr ⟨_, _, rfl, rfl, h.put (ne_nil_of_lookup_file hentry) _⟩
      | directory => exact Or.inl ⟨_, rfl, rfl⟩
      | nullDevice => exact Or.inr ⟨_, _, rfl, rfl, h⟩
      | fullDevice => exact Or.inl ⟨_, rfl, rfl⟩
      | program q => exact Or.inl ⟨_, rfl, rfl⟩
  · rw [hfile, hfile']
    exact Or.inr ⟨_, _, rfl, rfl, h.put_files (ne_nil_of_lookup_file hfile) _ _⟩

/-! ### Relations that opening and writing keep -/

/-- Opening and writing are answered the same on related file systems, and leave related ones. -/
structure Alike (S : FileSystem → FileSystem → Prop) : Prop where
  create : ∀ {fs fs'}, S fs fs' → ∀ path,
    (∃ e, fs.create path = .error e ∧ fs'.create path = .error e) ∨
      ∃ q fs₁ fs₁', fs.create path = .ok (q, fs₁) ∧ fs'.create path = .ok (q, fs₁') ∧ S fs₁ fs₁'
  writeAt : ∀ {fs fs'}, S fs fs' → ∀ q offset new,
    (∃ e, fs.writeAt q offset new = .error e ∧ fs'.writeAt q offset new = .error e) ∨
      ∃ fs₁ fs₁', fs.writeAt q offset new = .ok fs₁ ∧ fs'.writeAt q offset new = .ok fs₁' ∧ S fs₁ fs₁'

theorem alike_eq : Alike Eq where
  create := by
    rintro fs _ rfl path
    cases fs.create path with
    | error e => exact Or.inl ⟨e, rfl, rfl⟩
    | ok opened => exact Or.inr ⟨opened.1, opened.2, opened.2, rfl, rfl, rfl⟩
  writeAt := by
    rintro fs _ rfl q offset new
    cases fs.writeAt q offset new with
    | error e => exact Or.inl ⟨e, rfl, rfl⟩
    | ok fs₁ => exact Or.inr ⟨fs₁, fs₁, rfl, rfl, rfl⟩

theorem alike_agreeBut (p : Path) : Alike (AgreeBut p) :=
  ⟨fun h path => h.create path, fun h q offset new => h.writeAt q offset new⟩

/-! ### A file with other bytes -/

/-- A file that can be read can be given other bytes, and then these are read. -/
theorem exists_rewritten {path : String} {bytes : List UInt8} (hread : fs.readBytes path = .ok bytes)
    (hne : bytes ≠ []) (new : List UInt8) :
    ∃ p fs', AgreeBut p fs fs' ∧ fs'.readBytes path = .ok new := by
  -- only a file gives any bytes
  obtain ⟨p, hlocate, hslash⟩ :
      ∃ p, fs.locate path = .ok (.found p (.file bytes)) ∧ ¬endsInSlash path = true := by
    unfold readBytes at hread
    split at hread
    · cases hread
    · cases hread
    rename_i p node hlocate
    split at hread
    · cases hread
    rename_i hslash
    cases node with
    | file old => cases hread; exact ⟨p, hlocate, fun h => hslash ⟨nofun, h⟩⟩
    | directory => cases hread
    | nullDevice => cases hread; exact absurd rfl hne
    | fullDevice => cases hread; exact absurd rfl hne
    | program q => cases hread
  obtain ⟨-, hbelow, hfile⟩ := locate_leadsTo hlocate nofun
  have hagree : AgreeBut p fs (fs.put p (.file new)) := ((AgreeBut.refl p fs).put_left hfile new).symm
  refine ⟨p, _, hagree, ?_⟩
  obtain ⟨there, hlocate'⟩ :
      ∃ there, (fs.put p (.file new)).locate path = .ok (.found p (.file there)) := by
    rcases hagree.locate path with hsame | ⟨_, there, -, hthere⟩
    · exact ⟨bytes, hsame ▸ hlocate⟩
    · exact ⟨there, hthere⟩
  obtain ⟨-, -, hnew⟩ := locate_leadsTo hlocate' nofun
  rw [lookup_put_self hbelow] at hnew
  cases hnew
  simp only [readBytes, hlocate', contents, hslash]
  rfl

end FileSystem

/-! ### Runners -/

variable {σ : Type}

/-- A runner answers the same on file systems that are related, and leaves related file systems. -/
def Runner.Respects (runner : Runner σ) (S : FileSystem → FileSystem → Prop) : Prop :=
  ∀ invocation world files files', S files files' →
    (runner invocation world files).answer = (runner invocation world files').answer ∧
      (runner invocation world files).world = (runner invocation world files').world ∧
      S (runner invocation world files).files (runner invocation world files').files

/-- A runner that does not look at the bytes of the file at `p`. -/
def Runner.Overlooks (runner : Runner σ) (p : Path) : Prop :=
  runner.Respects (FileSystem.AgreeBut p)

/-- On the same file system a runner answers the same. -/
theorem Runner.respects_eq (runner : Runner σ) : runner.Respects Eq := by
  intro invocation world files files' h
  rw [h]
  exact ⟨rfl, rfl, rfl⟩

/-- A runner that has nothing to do with files overlooks each of them. -/
theorem Runner.overlooks_ofSource (source : Invocation → σ → Answer × σ) (p : Path) :
    (Runner.ofSource source).Overlooks p :=
  fun _ _ _ _ h => ⟨rfl, rfl, h⟩

end HashReplay
