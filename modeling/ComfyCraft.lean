import ComfyCraft.GuildBank.Separate
import ComfyCraft.GuildBank.Orderly
import ComfyCraft.Housing.Knock
import ComfyCraft.Housing.WayBack
import ComfyCraft.DungeonClear.EventWatchdog
import ComfyCraft.DungeonClear.SocialQuarantine
import ComfyCraft.DungeonClear.TestPlanRun
import ComfyCraft.AuctionHouse.Ledger
import ComfyCraft.Utilities.EventDelivery
import ComfyCraft.Utilities.EventMapRefines
import ComfyCraft.Group.RosterOrder
import ComfyCraft.LFT.Places
import ComfyCraft.LFT.Blocks
import ComfyCraft.LFT.Completion
import ComfyCraft.Guild.Leadership
import ComfyCraft.Invasion.Respite
import ComfyCraft.DungeonRun.EitherOrder
import ComfyCraft.Threat.Selection
import ComfyCraft.Shop.Coins
import ComfyCraft.Housing.BindRuns
import ComfyCraft.LFT.ListingRuns
import ComfyCraft.Housing.CritterNames
import ComfyCraft.Database.Transactions
import ComfyCraft.Maps.PackedTables
import ComfyCraft.Housing.Groups
import ComfyCraft.Housing.EditSessions
import ComfyCraft.Maps.ResetRuns
import ComfyCraft.Utilities.ByteBuffer
import ComfyCraft.Utilities.TimeText
import ComfyCraft.DungeonClear.LatchGates
import ComfyCraft.DungeonClear.BoundedHolds
import ComfyCraft.DungeonClear.BossOrdering
import ComfyCraft.GuildBank.Unlocking
import ComfyCraft.GuildBank.WeeklyLimit
import ComfyCraft.GuildBank.ItemCopies
import ComfyCraft.DungeonClear.AggroEstimate
import ComfyCraft.DungeonClear.ShortestRoute
import ComfyCraft.DungeonClear.RouteCursor
import ComfyCraft.DungeonClear.SplineWindow
import ComfyCraft.DungeonClear.DecisionCapture
import ComfyCraft.AuctionHouse.Browse
import ComfyCraft.Pool.PoolUpdate
import ComfyCraft.Pool.PoolCalls
import ComfyCraft.DungeonClear.TestRunRecord
import ComfyCraft.LFT.SignupTexts
import ComfyCraft.Inventory.BuyBack
import ComfyCraft.DungeonRun.Completion
import ComfyCraft.Loot.RollOutcome
import ComfyCraft.LFT.PlayersFirst
import ComfyCraft.Utilities.Util
import ComfyCraft.DungeonClear.DoorClip
import ComfyCraft.PlayerDump.Fields
import ComfyCraft.Mail.Expiry
import ComfyCraft.Loot.GearScale
import ComfyCraft.Battlegrounds.Matches
import ComfyCraft.Guild.Roster
import ComfyCraft.Guild.EventLog
