import GdbExplore.Gdb
import GdbExplore.Session
import GdbExplore.GuardExpr
import GdbExplore.Explorers
import GdbExplore.Explorer
import GdbExplore.Fuel
import GdbExplore.Termination.Types
import GdbExplore.Termination.Values
import GdbExplore.Navigation
import GdbExplore.IndexSession
import GdbExplore.Simulation
import GdbExplore.Typedefs
import GdbExplore.TypedefTypes
import GdbExplore.Paths
import GdbExplore.Completeness
import GdbExplore.Walks
import GdbExplore.ReturnKey
import GdbExplore.Menus
