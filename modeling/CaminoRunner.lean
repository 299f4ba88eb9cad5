import CaminoRunner.Go
import CaminoRunner.LocalNetwork.Basic
import CaminoRunner.LocalNetwork.AddNode
import CaminoRunner.LocalNetwork.Run
import CaminoRunner.LocalNetwork.Ports
import CaminoRunner.LocalNetwork.Processes
import CaminoRunner.LocalNetwork.Ready
import CaminoRunner.WaitNode
import CaminoRunner.Server.Basic
import CaminoRunner.Server.Shutdown
import CaminoRunner.Server.Ready
import CaminoRunner.Server.Start
import CaminoRunner.LocalNetwork.Stop
import CaminoRunner.Json
import CaminoRunner.Marshal
import CaminoRunner.LocalNetwork.Files
import CaminoRunner.LocalNetwork.NewNetwork
import CaminoRunner.Genesis
import CaminoRunner.Server.NewNetwork
import CaminoRunner.Server.ConfigFile
