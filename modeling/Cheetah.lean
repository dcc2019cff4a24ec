import Cheetah.NdArray
import Cheetah.Protocol
import Cheetah.Ideal
import Cheetah.Mul
import Cheetah.MatMul
import Cheetah.Msb
import Cheetah.Equal
import Cheetah.Compare
import Cheetah.Pairing
import Cheetah.Async
