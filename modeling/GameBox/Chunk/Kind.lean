/-!
# The kinds of header chunks

A chunk is numbered inside its category, so that one number stands for different things in a map
and in a replay.  A kind is what the number stands for.

* `ChunkKind`: the kinds that can be decoded.
* `ChunkKind.all`: their list, with `ChunkKind.mem_all`.
* `ChunkKind.name`: how a kind is named in reports.
-/

namespace GameBox

/-- The kinds of header chunks that have a decoder. -/
inductive ChunkKind where
  | tmDesc
  | common
  | version
  | community
  | thumbnail
  | author
  | vskDesc
  | replayVersion
  | collectorDesc
  | icon
  | time
  | skin
  | itemType
  | gameSkin
  | mood
  | unknown
  | oldDesc
  | collectionDesc
  | folders
  | menuIcons
  | profile
  | folderDep
  deriving DecidableEq, Repr

namespace ChunkKind

/-- All kinds. -/
def all : List ChunkKind :=
  [tmDesc, common, version, community, thumbnail, author, vskDesc, replayVersion,
   collectorDesc, icon, time, skin, itemType, gameSkin, mood, unknown, oldDesc,
   collectionDesc, folders, menuIcons, profile, folderDep]

/-- How a kind is named in reports. -/
def name : ChunkKind → String
  | tmDesc => "TmDesc"
  | common => "Common"
  | version => "Version"
  | community => "Community"
  | thumbnail => "Thumbnail"
  | author => "Author"
  | vskDesc => "VskDesc"
  | replayVersion => "ReplayVersion"
  | collectorDesc => "CollectorDesc"
  | icon => "Icon"
  | time => "Time"
  | skin => "Skin"
  | itemType => "ItemType"
  | gameSkin => "GameSkin"
  | mood => "Mood"
  | unknown => "Unknown"
  | oldDesc => "OldDesc"
  | collectionDesc => "CollectionDesc"
  | folders => "Folders"
  | menuIcons => "MenuIcons"
  | profile => "Profile"
  | folderDep => "FolderDep"

theorem mem_all (kind : ChunkKind) : kind ∈ all := by
  cases kind <;> decide

end ChunkKind
end GameBox
