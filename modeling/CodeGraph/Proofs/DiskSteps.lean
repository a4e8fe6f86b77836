import CodeGraph.Proofs.DiskFrame
import CodeGraph.Proofs.Outcomes

/-!
This file says what the operations on files do: what they need, which node they change, and that
they take no directory away.
-/

namespace CodeGraph.Disk

variable {disk after : Disk} {path name : String} {place other origin : List String}

theorem isDirectory_eq_false_of_file {content : ByteArray} {age : Int}
    (found : disk.node? place = some (.file content age)) : disk.isDirectory place = false := by
  unfold isDirectory
  rw [found]
  rfl

theorem not_directory_of_none (free : disk.node? place = none) :
    disk.isDirectory place = false := by
  unfold isDirectory
  rw [free]

theorem node?_set_self (unfixed : isStanding place = false) (node : DiskNode) :
    (disk.set place node).node? place = some node := by
  rw [node?_of_not_standing unfixed, filed?_set, if_pos rfl]

theorem node?_set_of_ne (apart : label place ≠ label other) (node : DiskNode) :
    (disk.set place node).node? other = disk.node? other := by
  unfold node?
  rw [filed?_set, if_neg apart]

theorem node?_erase_self (unfixed : isStanding place = false) :
    (disk.erase place).node? place = none := by
  rw [node?_of_not_standing unfixed, filed?_erase, if_pos rfl]

theorem node?_erase_of_ne (apart : label place ≠ label other) :
    (disk.erase place).node? other = disk.node? other := by
  unfold node?
  rw [filed?_erase, if_neg apart]

theorem write_eq (resolved : disk.resolve path = .ok place)
    (plain : disk.isDirectory place = false) (content : ByteArray) :
    disk.write path content = .ok (disk.set place (.file content 0)) := by
  unfold write
  simp only [resolved, bind, Except.bind, plain, Bool.false_eq_true, if_false]

theorem of_write {content : ByteArray} (written : disk.write path content = .ok after) :
    ∃ place, disk.resolve path = .ok place ∧ disk.isDirectory place = false ∧
      after = disk.set place (.file content 0) := by
  unfold write at written
  cases resolved : disk.resolve path with
  | error fault => rw [resolved] at written; cases written
  | ok place =>
      simp only [resolved, bind, Except.bind] at written
      split at written
      · cases written
      · rename_i plain
        exact ⟨place, rfl, by simpa using plain, (Except.ok.inj written).symm⟩

theorem remove_eq (resolved : disk.resolve path = .ok place) {content : ByteArray} {age : Int}
    (found : disk.node? place = some (.file content age)) :
    disk.remove path = .ok (disk.erase place) := by
  unfold remove
  simp only [resolved, bind, Except.bind, found]

theorem remove_keeps (removed : disk.remove path = .ok after) : Keeps disk after := by
  unfold remove at removed
  cases resolved : disk.resolve path with
  | error fault => rw [resolved] at removed; cases removed
  | ok place =>
      simp only [resolved, bind, Except.bind] at removed
      split at removed
      · rename_i content age found
        rw [← Except.ok.inj removed]
        exact erase_keeps (isDirectory_eq_false_of_file found)
      · cases removed
      · cases removed

theorem discard_eq (resolved : disk.resolve path = .ok place) {content : ByteArray} {age : Int}
    (found : disk.node? place = some (.file content age)) :
    disk.discard path = disk.erase place := by
  unfold discard
  rw [remove_eq resolved found]

theorem discard_keeps (disk : Disk) (path : String) : Keeps disk (disk.discard path) := by
  unfold discard
  cases removed : disk.remove path with
  | error fault => exact Keeps.refl disk
  | ok rest => exact remove_keeps removed

theorem link_eq (resolved : disk.resolve path = .ok origin) (named : disk.resolve name = .ok place)
    {content : ByteArray} {age : Int} (found : disk.node? origin = some (.file content age))
    (free : disk.node? place = none) :
    disk.link path name = .ok (disk.set place (.file content age)) := by
  unfold link
  simp only [resolved, named, bind, Except.bind, found, free, Option.isSome_none,
    Bool.false_eq_true, if_false]

theorem of_link (linked : disk.link path name = .ok after) :
    ∃ origin place content age, disk.resolve path = .ok origin ∧ disk.resolve name = .ok place ∧
      disk.node? origin = some (.file content age) ∧ disk.node? place = none ∧
      after = disk.set place (.file content age) := by
  unfold link at linked
  cases resolved : disk.resolve path with
  | error fault => rw [resolved] at linked; cases linked
  | ok origin =>
      cases named : disk.resolve name with
      | error fault => rw [resolved, named] at linked; cases linked
      | ok place =>
          simp only [resolved, named, bind, Except.bind] at linked
          split at linked
          · rename_i content age found
            split at linked
            · cases linked
            · rename_i free
              exact ⟨origin, place, content, age, rfl, rfl, found, by simpa using free,
                (Except.ok.inj linked).symm⟩
          · cases linked
          · cases linked

theorem link_keeps (linked : disk.link path name = .ok after) : Keeps disk after := by
  obtain ⟨origin, place, content, age, -, -, -, free, rfl⟩ := of_link linked
  exact set_keeps (not_directory_of_none free) _

theorem replace_eq (resolved : disk.resolve path = .ok origin)
    (named : disk.resolve name = .ok place) {content : ByteArray} {age : Int}
    (found : disk.node? origin = some (.file content age))
    (plain : disk.isDirectory place = false) :
    disk.replace path name = .ok ((disk.erase origin).set place (.file content age)) := by
  unfold replace
  simp only [resolved, named, bind, Except.bind, found, plain, Bool.false_eq_true, if_false]

theorem of_replace (replaced : disk.replace path name = .ok after) :
    ∃ origin place content age, disk.resolve path = .ok origin ∧ disk.resolve name = .ok place ∧
      disk.node? origin = some (.file content age) ∧ disk.isDirectory place = false ∧
      after = (disk.erase origin).set place (.file content age) := by
  unfold replace at replaced
  cases resolved : disk.resolve path with
  | error fault => rw [resolved] at replaced; cases replaced
  | ok origin =>
      cases named : disk.resolve name with
      | error fault => rw [resolved, named] at replaced; cases replaced
      | ok place =>
          simp only [resolved, named, bind, Except.bind] at replaced
          split at replaced
          · rename_i content age found
            split at replaced
            · cases replaced
            · rename_i plain
              exact ⟨origin, place, content, age, rfl, rfl, found, by simpa using plain,
                (Except.ok.inj replaced).symm⟩
          · cases replaced
          · cases replaced

end CodeGraph.Disk
