import WalkingRpg.Library.Runs
import WalkingRpg.Library.Sampling
import WalkingRpg.Library.Slots
import WalkingRpg.Models.Ability
import WalkingRpg.Models.Creature
import WalkingRpg.Models.Item
import WalkingRpg.Models.Player
import WalkingRpg.Models.PlayerInventory
import WalkingRpg.Models.PlayerStats
import WalkingRpg.Library.Json
import WalkingRpg.Models.Encounter
import WalkingRpg.Storage.PendingEncounter
import WalkingRpg.Models.Rewards
import WalkingRpg.Models.Turn
import WalkingRpg.Storage.CloudTimestamps
import WalkingRpg.Encounter.Hook
import WalkingRpg.Encounter.Step
import WalkingRpg.Encounter.Moves
import WalkingRpg.Encounter.Frames
import WalkingRpg.Encounter.Objects
import WalkingRpg.Encounter.Beats
import WalkingRpg.Encounter.Saves
import WalkingRpg.Library.Gaps
import WalkingRpg.Encounter.Turns
import WalkingRpg.Encounter.Payments
import WalkingRpg.Encounter.HeldFoe
import WalkingRpg.Session.UsePlayer
import WalkingRpg.Session.Confirmation
import WalkingRpg.Library.LastWrite
import WalkingRpg.Storage.CloudSyncService
import WalkingRpg.Encounter.Passive
import WalkingRpg.Encounter.Whereabouts
import WalkingRpg.Screens.Inventory
import WalkingRpg.Library.WriteBuffer
import WalkingRpg.Session.Progress
import WalkingRpg.Session.Holding
import WalkingRpg.Account.UseAuth
import WalkingRpg.Account.Moves
import WalkingRpg.Account.Ownership
import WalkingRpg.Account.Within
import WalkingRpg.Account.Erasure
import WalkingRpg.Account.Conflict
import WalkingRpg.Account.Choice
import WalkingRpg.Encounter.WalkSummary
import WalkingRpg.Encounter.AccountSwitch
import WalkingRpg.Services.EncounterService
import WalkingRpg.Models.TimeOfDay
import WalkingRpg.Services.LocationService
import WalkingRpg.Services.Movement
import WalkingRpg.Library.Js
import WalkingRpg.Library.Firestore
import WalkingRpg.Models.PlayerTotals
import WalkingRpg.Services.LootService
import WalkingRpg.Storage.PlayerDocument
import WalkingRpg.Library.PromiseChain
import WalkingRpg.Storage.WriteChain
import WalkingRpg.Library.Faults
import WalkingRpg.Storage.LocalPlayer
import WalkingRpg.Encounter.SummaryDrain
import WalkingRpg.Encounter.SummaryOrder
import WalkingRpg.Encounter.SummaryAccount
import WalkingRpg.Library.OneShot
import WalkingRpg.Session.CommitWhenActive
import WalkingRpg.Session.LatestLoad
import WalkingRpg.Library.Staircase
import WalkingRpg.Models.PlayerExperience
import WalkingRpg.Models.PlayerGear
import WalkingRpg.Encounter.SkippedFight
import WalkingRpg.Library.Countdown
import WalkingRpg.Models.Fight
import WalkingRpg.Encounter.Fighting
import WalkingRpg.Encounter.SummaryCover
import WalkingRpg.Storage.PlayerDecode
import WalkingRpg.Library.WeightedPick
import WalkingRpg.Models.Evasion
import WalkingRpg.Models.Damage
import WalkingRpg.Models.DirectDamage
import WalkingRpg.Models.TemplatePick
import WalkingRpg.Models.StageLayout
import WalkingRpg.Services.RarityTables
import WalkingRpg.Screens.CombatModal
import WalkingRpg.Services.GeneratedItem
import WalkingRpg.Encounter.HitFeed
import WalkingRpg.Encounter.Narration
import WalkingRpg.Screens.CombatImpact
import WalkingRpg.Encounter.Books
import WalkingRpg.Encounter.SavedPlayers
import WalkingRpg.Encounter.Tempo
import WalkingRpg.Account.Deletion
