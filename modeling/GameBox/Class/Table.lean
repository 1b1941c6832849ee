import GameBox.Class

/-!
# The known engine classes

* `Class.known`: every known class, grouped by the part of the engine it belongs to.
* `Class.find?`, `Class.categoryOf`: looking a class up by its id.  No id occurs twice.
-/

namespace GameBox
namespace Class

/-- Classes of the engine itself. -/
def system : List Class :=
  [⟨0x01001000, "CMwNod", .other⟩,
   ⟨0x0B005000, "CSystemConfig", .other⟩,
   ⟨0x0B008000, "CSystemPackDesc", .other⟩,
   ⟨0x0B00D000, "CSystemFidsFolder", .other⟩]

/-- Classes of functions over time. -/
def functions : List Class :=
  [⟨0x05002000, "CFuncKeysReal", .other⟩,
   ⟨0x05003000, "CFuncKeysPath", .other⟩,
   ⟨0x0500A000, "CFuncKeysNatural", .other⟩,
   ⟨0x05015000, "CFuncShaderLayerUV", .other⟩]

/-- Classes of the renderer. -/
def rendering : List Class :=
  [⟨0x06001000, "CHmsLight", .hms⟩,
   ⟨0x06003000, "CHmsItem", .hms⟩,
   ⟨0x06005000, "CHmsCorpus", .hms⟩,
   ⟨0x0600F000, "CHmsZone", .hms⟩,
   ⟨0x06010000, "CHmsPortal", .hms⟩,
   ⟨0x06011000, "CHmsZoneDynamic", .hms⟩,
   ⟨0x06012000, "CHmsAmbientOcc", .hms⟩,
   ⟨0x06013000, "CHmsSoundSource", .hms⟩,
   ⟨0x06014000, "CHmsLightMap", .hms⟩,
   ⟨0x06015000, "CHmsLightProbeGrid", .hms⟩,
   ⟨0x06016000, "CHmsLightArray", .hms⟩]

/-- Classes of the user interface. -/
def controls : List Class :=
  [⟨0x07001000, "CControlBase", .other⟩,
   ⟨0x07002000, "CControlContainer", .other⟩,
   ⟨0x07010000, "CControlFrame", .other⟩,
   ⟨0x07031000, "CControlLabel", .other⟩]

/-- Classes of resources. -/
def resources : List Class :=
  [⟨0x09002000, "CPlugShader", .plug⟩,
   ⟨0x09003000, "CPlugCrystal", .plug⟩,
   ⟨0x09004000, "CPlugShaderGeneric", .plug⟩,
   ⟨0x09005000, "CPlugSolid", .plug⟩,
   ⟨0x09006000, "CPlugVisual", .plug⟩,
   ⟨0x0900C000, "CPlugSurface", .plug⟩,
   ⟨0x0900F000, "CPlugSurfaceGeom", .plug⟩,
   ⟨0x09011000, "CPlugBitmap", .plug⟩,
   ⟨0x09013000, "CPlugFileWav", .plug⟩,
   ⟨0x09014000, "CPlugLight", .plug⟩,
   ⟨0x0901A000, "CPlugSound", .plug⟩,
   ⟨0x0901E000, "CPlugVisualIndexedTriangles", .plug⟩,
   ⟨0x09022000, "CPlugFileDds", .plug⟩,
   ⟨0x09026000, "CPlugShaderApply", .plug⟩,
   ⟨0x0902A000, "CPlugFileImg", .plug⟩,
   ⟨0x0902C000, "CPlugVisual3D", .plug⟩,
   ⟨0x09030000, "CPlugFileTga", .plug⟩,
   ⟨0x09031000, "CPlugFileJpg", .plug⟩,
   ⟨0x09033000, "CPlugFilePng", .plug⟩,
   ⟨0x0903A000, "CPlugMaterialCustom", .plug⟩,
   ⟨0x09044000, "CPlugFileOggVorbis", .plug⟩,
   ⟨0x0904F000, "CPlugTree", .plug⟩,
   ⟨0x09051000, "CPlugTreeGenerator", .plug⟩,
   ⟨0x09057000, "CPlugVisualIndexed", .plug⟩,
   ⟨0x09067000, "CPlugShaderPass", .plug⟩,
   ⟨0x09079000, "CPlugMaterial", .plug⟩,
   ⟨0x090BA000, "CPlugSkel", .plug⟩,
   ⟨0x090BB000, "CPlugSolid2Model", .plug⟩,
   ⟨0x090D4000, "CPlugAnimFile", .plug⟩,
   ⟨0x090F9000, "CPlugLightUserModel", .plug⟩,
   ⟨0x090FD000, "CPlugMaterialUserInst", .plug⟩,
   ⟨0x0910D000, "CPlugFxSystem", .plug⟩,
   ⟨0x0910E000, "CPlugParticleEmitterModel", .plug⟩,
   ⟨0x0911F000, "CPlugEntRecordData", .plug⟩,
   ⟨0x09128000, "CPlugRoadChunk", .plug⟩,
   ⟨0x09141000, "CPlugVegetTreeModel", .plug⟩,
   ⟨0x09144000, "CPlugDynaObjectModel", .plug⟩,
   ⟨0x09145000, "CPlugPrefab", .plug⟩,
   ⟨0x0914A000, "CPlugEditorHelper", .plug⟩,
   ⟨0x09159000, "CPlugStaticObjectModel", .plug⟩,
   ⟨0x09178000, "CPlugSpawnModel", .plug⟩]

/-- Classes of scenes. -/
def scene : List Class :=
  [⟨0x0A005000, "CSceneMobil", .other⟩,
   ⟨0x0A014000, "CSceneFxNod", .other⟩,
   ⟨0x0A01B000, "CSceneObjectLink", .other⟩,
   ⟨0x0A02B000, "CSceneVehicleCarMarksModel", .other⟩,
   ⟨0x0A03D000, "CSceneSoundSource", .other⟩]

/-- Classes of the sailing games. -/
def sailing : List Class :=
  [⟨0x21080000, "CGameCtnChallenge", .challenge⟩]

/-- Classes of the game. -/
def game : List Class :=
  [⟨0x03011000, "CGameCtnCollectorList", .other⟩,
   ⟨0x0301A000, "CGameCtnCollector", .collector⟩,
   ⟨0x0301B000, "CGameCtnObjectInfo", .collector⟩,
   ⟨0x03024000, "CGameCtnMediaBlock3dStereo", .other⟩,
   ⟨0x03029000, "CGameCtnMediaBlockTriangles", .other⟩,
   ⟨0x03031000, "CGameCtnDecorationTerrainModifier", .collector⟩,
   ⟨0x03033000, "CGameCtnCollection", .collection⟩,
   ⟨0x03036000, "CGameCtnBlockUnitInfo", .other⟩,
   ⟨0x03038000, "CGameCtnDecoration", .collector⟩,
   ⟨0x03039000, "CGameCtnDecorationAudio", .other⟩,
   ⟨0x0303A000, "CGameCtnDecorationMood", .other⟩,
   ⟨0x0303B000, "CGameCtnDecorationSize", .other⟩,
   ⟨0x0303F000, "CGameGhost", .other⟩,
   ⟨0x03043000, "CGameCtnChallenge", .challenge⟩,
   ⟨0x0304B000, "CGameCtnMediaBlockTriangles2D", .other⟩,
   ⟨0x0304C000, "CGameCtnMediaBlockTriangles3D", .other⟩,
   ⟨0x0304E000, "CGameCtnBlockInfo", .collector⟩,
   ⟨0x0304F000, "CGameCtnBlockInfoFrontier", .collector⟩,
   ⟨0x03051000, "CGameCtnBlockInfoFlat", .collector⟩,
   ⟨0x03052000, "CGameCtnBlockInfoRoad", .collector⟩,
   ⟨0x03053000, "CGameCtnBlockInfoClip", .collector⟩,
   ⟨0x03054000, "CGameCtnBlockInfoSlope", .collector⟩,
   ⟨0x03055000, "CGameCtnBlockInfoPylon", .collector⟩,
   ⟨0x03057000, "CGameCtnBlock", .other⟩,
   ⟨0x03059000, "CGameCtnBlockSkin", .skin⟩,
   ⟨0x0305B000, "CGameCtnChallengeParameters", .other⟩,
   ⟨0x03078000, "CGameCtnMediaTrack", .other⟩,
   ⟨0x03079000, "CGameCtnMediaClip", .other⟩,
   ⟨0x0307A000, "CGameCtnMediaClipGroup", .other⟩,
   ⟨0x03080000, "CGameCtnMediaBlockFxColors", .other⟩,
   ⟨0x03081000, "CGameCtnMediaBlockFxBlurDepth", .other⟩,
   ⟨0x03082000, "CGameCtnMediaBlockFxBlurMotion", .other⟩,
   ⟨0x03083000, "CGameCtnMediaBlockFxBloom", .other⟩,
   ⟨0x03084000, "CGameCtnMediaBlockCameraGame", .other⟩,
   ⟨0x03085000, "CGameCtnMediaBlockTime", .other⟩,
   ⟨0x0308C000, "CGamePlayerProfile", .profile⟩,
   ⟨0x0308F000, "CGameCtnChallengeGroup", .other⟩,
   ⟨0x03092000, "CGameCtnGhost", .other⟩,
   ⟨0x03093000, "CGameCtnReplayRecord", .replay⟩,
   ⟨0x03099000, "CGameCtnChapter", .other⟩,
   ⟨0x0309A000, "CGameCtnCampaign", .other⟩,
   ⟨0x030A1000, "CGameCtnMediaBlockCameraPath", .other⟩,
   ⟨0x030A2000, "CGameCtnMediaBlockCameraCustom", .other⟩,
   ⟨0x030A3000, "CGameCtnMediaBlockCameraOrbital", .other⟩,
   ⟨0x030A4000, "CGameCtnMediaBlockCameraEffectShake", .other⟩,
   ⟨0x030A5000, "CGameCtnMediaBlockImage", .other⟩,
   ⟨0x030A6000, "CGameCtnMediaBlockMusicEffect", .other⟩,
   ⟨0x030A7000, "CGameCtnMediaBlockSound", .other⟩,
   ⟨0x030A8000, "CGameCtnMediaBlockText", .other⟩,
   ⟨0x030A9000, "CGameCtnMediaBlockTrails", .other⟩,
   ⟨0x030AB000, "CGameCtnMediaBlockTransitionFade", .other⟩,
   ⟨0x030E5000, "CGameCtnMediaBlockGhost", .other⟩,
   ⟨0x03101000, "CGameCtnAnchoredObject", .other⟩,
   ⟨0x0310D000, "CGameCtnMacroBlockInfo", .collector⟩,
   ⟨0x03110000, "CGameCtnCollectorVehicle", .collector⟩,
   ⟨0x03118000, "CGameCtnArticle", .collector⟩,
   ⟨0x0311D000, "CGameCtnZoneGenealogy", .other⟩,
   ⟨0x03120000, "CGameCtnAutoTerrain", .other⟩,
   ⟨0x03122000, "CGameCtnBlockInfoMobil", .collector⟩,
   ⟨0x03126000, "CGameCtnMediaBlockDOF", .other⟩,
   ⟨0x03127000, "CGameCtnMediaBlockToneMapping", .other⟩,
   ⟨0x03128000, "CGameCtnMediaBlockBloomHdr", .other⟩,
   ⟨0x03129000, "CGameCtnMediaBlockTimeSpeed", .other⟩,
   ⟨0x0312A000, "CGameCtnMediaBlockManialink", .other⟩,
   ⟨0x0312C000, "CGameUserProfile", .profile⟩,
   ⟨0x03133000, "CGameCtnMediaBlockVehicleLight", .other⟩,
   ⟨0x0313B000, "CGameWaypointSpecialProperty", .other⟩,
   ⟨0x0315B000, "CGameCtnBlockInfoClassic", .collector⟩,
   ⟨0x0315C000, "CGameCtnBlockInfoVariant", .other⟩,
   ⟨0x0315D000, "CGameCtnBlockInfoVariantAir", .other⟩,
   ⟨0x0315E000, "CGameCtnBlockInfoVariantGround", .other⟩,
   ⟨0x03165000, "CGameCtnMediaBlockDirtyLens", .other⟩,
   ⟨0x03186000, "CGameCtnMediaBlockColorGrading", .other⟩,
   ⟨0x03195000, "CGameCtnMediaBlockInterface", .other⟩,
   ⟨0x03199000, "CGameCtnMediaBlockFog", .other⟩,
   ⟨0x0329F000, "CGameCtnMediaBlockEntity", .other⟩,
   ⟨0x0337A000, "CGameCtnMediaBlockSpectators", .other⟩,
   ⟨0x0338B000, "CGameCtnMediaBlockOpponentVisibility", .other⟩]

/-- Classes of skins. -/
def skins : List Class :=
  [⟨0x090F4000, "CPlugGameSkin", .skin⟩,
   ⟨0x09181000, "CPlugGameSkinAndFolder", .skin⟩]

/-- Ids that older games use for classes of the game. -/
def oldGame : List Class :=
  [⟨0x24003000, "CGameCtnChallenge", .challenge⟩,
   ⟨0x2403F000, "CGameCtnReplayRecord", .replay⟩]

/-- Classes of game data. -/
def gameData : List Class :=
  [⟨0x2E001000, "CGameCtnCollector", .collector⟩,
   ⟨0x2E002000, "CGameItemModel", .collector⟩,
   ⟨0x2E007000, "CGameObjectPhyModel", .other⟩,
   ⟨0x2E008000, "CGameObjectVisModel", .other⟩,
   ⟨0x2E020000, "CGameItemPlacementParam", .other⟩,
   ⟨0x2E025000, "CGameBlockItem", .other⟩,
   ⟨0x2E026000, "CGameCommonItemEntityModelEdition", .other⟩,
   ⟨0x2E027000, "CGameCommonItemEntityModel", .other⟩]

/-- Every known class. -/
def known : List Class :=
  system ++ functions ++ rendering ++ controls ++ resources ++ scene ++ sailing ++ game ++ skins ++
    oldGame ++ gameData

/-- The class with an id, if it is known. -/
def find? (id : UInt32) : Option Class :=
  known.find? fun entry => entry.id = id

/-- The category of a class id; an unknown class belongs to the other files. -/
def categoryOf (id : UInt32) : Category :=
  match find? id with
  | some entry => entry.category
  | none => .other

/-- The known classes of a category. -/
def ofCategory (category : Category) : List Class :=
  known.filter fun entry => entry.category = category

end Class
end GameBox
