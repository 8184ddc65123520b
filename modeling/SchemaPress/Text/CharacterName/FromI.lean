/-!
# Names of characters that begin with `I` to `L`

The names of characters and their aliases, in their order. Each is written as what it differs in from
the one in front of it (`SchemaPress.Text.CharacterName`).
-/

namespace SchemaPress.Text.CharacterName

/-- The names that begin with `I` to `L`. -/
def fromI : List String := [
  "aI LOVE YOU HAND SIGNtCE CREAMeUBEeHOCKEY STICK AND PUCKvSKATEiDENTICAL TOa AND SLANTED PARALL",
  "ELxWITH DOT ABOVEsFICATION CARDqOGRAPHIC ANNOTATION BOTTOM MARKlEARTH MARKkFIRST MARKjOUR MARK",
  "fTH MARKlHEAVEN MARKlLINKING MARKmMAN MARKhIDDLE MARKlONE MARKiREVERSE MARKmSECOND MARKlTHIRD ",
  "MARKiREE MARKjOP MARKhWO MARKtCLOSING MARKlOMMAfDEPARTING TONE MARKrSCRIPTION CHARACTER ABOVE ",
  "TO BELOWfMIDDLE AND BELOWzFULL SURROUNDnLEFT TO MIDDLE AND RIGHTqRIGHTnOVERLAIDiSURROUND FROM ",
  "ABOVEfBELOWfLEFTdOWER LEFTkUPPER LEFTeRIGHT+vENTERING TONE MARKsFULL STOPjHALF FILL SPACEpITER",
  "ATION MARKoLEVEL TONE MARKpNUMBER ZEROlRISING TONE MARKqSPACEfTALLY MARK FIVEdOUReONEdTHREEeWO",
  "nELEGRAPH LINE FEED SEPARATOR SYMBOL+aSYMBOL FOR APRILeUGUSTgDAY EIGHTaEENhLEVENgFIFTEENfVEdOU",
  "RaTEENiNINEaTEENiONEdSEVENaTEENiIXaTEENhTENcHIRTEENdYa-ONEiREEeWELVEdNTYa-EIGHTfFIVEdOUReNINEe",
  "ONEdSEVENeIXdTHREEeWOiOgECEMBERiFEBRUARYiHOUR EIGHTaEENhLEVENgFIFTEENfVEdOURaTEENiNINEaTEENiON",
  "EdSEVENaTEENiIXaTEENhTENcHIRTEENgREEeWELVEdNTYa-FOUReONEdTHREEeWOiOdZEROjJANUARYgULYcNEeMARCHd",
  "YdNOVEMBERiOCTOBERhSEPTEMBER+eVARIATION INDICATOR+eMAGE OFa OR APPROXIMATELY EQUAL TO+gPaERIAL",
  " ARAMAIC LETTER ALEPHeYINeBETHeDALETHgGIMELfHEaTHeKAPHeLAMEDHgMEMdNUNdPEcQOPHeRESHeSADHEdMEKHf",
  "HINeTAWcETHeWAWdYODHeZAYINmNUMBER ONEa HUNDREDhTHOUSANDmTENa THOUSANDlHREEeWENTYeOkSECTION SIG",
  "N+cNBOX TRAYiCOMING ENVELOPEmPLETE INFINITYqREASE FONT SIZE SYMBOLrS AShMENThDaEXa POINTING AT",
  " THE VIEWERzIAN RUPEE SIGNnC SIYAQ ALTERNATE LAKH MARKtFRACTION ONE HALFeQUARTERlTHREE QUARTER",
  "SxLAKH MARKjNUMBER ALTERNATE ONEdTEN THOUSANDlWOnEIGHTa HUNDREDhTHOUSANDjYa THOUSANDpFIFTYa TH",
  "OUSANDmVEa HUNDREDhTHOUSANDmORTYa THOUSANDmURa HUNDREDhTHOUSANDnKARORaANhLAKHaANgNINEa HUNDRED",
  "hTHOUSANDjTYa THOUSANDpONEa HUNDREDhTHOUSANDmPREFIXED EIGHTfFIVEdOUReNINEeONEdSEVENeIXdTHREEeW",
  "OmSEVENa HUNDREDhTHOUSANDjTYa THOUSANDpIXa HUNDREDhTHOUSANDjTYa THOUSANDoTENa THOUSANDlHIRTYa ",
  "THOUSANDnREEa HUNDREDhTHOUSANDnWENTYa THOUSANDnOa HUNDREDhTHOUSANDtPLACEHOLDERlRUPEE MARKuFINI",
  "TYa NEGATED WITH VERTICAL BAR+fORMATION DESK PERSONlSEPARATOR FOUReONEdTHREEeWOmOURCEqHIBIT AR",
  "ABIC FORM SHAPINGtSYMMETRIC SWAPPINGyPUT SYMBOL FOR LATIN CAPITAL LETTERSpLETTERShSMALL LETTER",
  "StNUMBERShSYMBOLSwSCRIPTIONAL PAHLAVI LETTER ALEPHfBETHeDALETHgGIMELfHEaTHeKAPHeLAMEDHgMEM-QOP",
  "HiNUNdPEcSADHEdMEKHfHINeTAWcETHeWAW-AYIN-RESHnYODHeZAYINmNUMBER FOUReONEa HUNDREDhTHOUSANDmTEN",
  "cHREEeWENTYeOqRTHIAN LETTER ALEPHeYINeBETHeDALETHgGIMELfHEaTHeKAPHeLAMEDHgMEMdNUNdPEcQOPHeRESH",
  "eSADHEdMEKHfHINeTAWcETHeWAWdYODHeZAYINmNUMBER FOUReONEa HUNDREDhTHOUSANDmTENcHREEeWENTYeO+eERT",
  "ION SYMBOLoTEGRALa AROUND A POINT OPERATORwVERAGE WITH SLASHsEXTENSIONjWITH DOUBLE STROKEnINTE",
  "RSECTIONmLEFTWARDS ARROW WITH HOOKzOVERBARhTIMES SIGNkUNDERBARgIONpRCALATEgIOR PRODUCTlLINEAR ",
  "ANNOTATION ANCHORgSEPARATORjTERMINATOR+bOCKED FEMALE AND MALE SIGN+bROBANGgSECTIONa ABOVE BAR ",
  "ABOVE UNIONpUNIONlBESIDE AND JOINED WITH INTERSECTION+jWITH DOTdLOGICAL ANDlOVERBARxVERSE BULL",
  "ETgCHECK MARKfER BOARD FILLsDOWNWARDS ARROW WITH TIP LEFTWARDS+iMEDIUM SHADEmWHITE CIRCLEpTED ",
  "EXCLAMATION MARKqINTERROBANGlLAZY SfOW KAVYKAa WITH KAVYKA ABOVE+cOHM SIGNiPENTAGRAMjQUESTION ",
  "MARKnUNDERTIEoISIBLE PLUSeSEPARATORjTIMESoZAKAYA LANTERNpJACK-O-LANTERNmPANESE BANK SYMBOLlCAS",
  "TLEgDOLLSfGOBLINgINDUSTRIAL STANDARD SYMBOL+aOGREePOST OFFICElSYMBOL FOR BEGINNER+aRbVANESE CO",
  "NSONANT SIGN CAKRAfKERETfPENGKALwDIGIT EIGHTfFIVEdOUReNINEeONEdSEVENeIXdTHREEeWOdZEROkLEFT RER",
  "ENGGANmTTER AaIcBAa MURDAiCAa MURDAiDAa MAHAPRANAlDAa MAHAPRANAnEbGAa MURDAiHAcIa KAWIfIcJAa M",
  "AHAPRANAmKAa MURDAfSASAKiLAcMAcNAa MURDAhGAa LELETa RASWADIqYAa MURDAjObPAa CEREKfMURDAiRAa AG",
  "UNGiSAa MAHAPRANAiURDAiTAa MURDAhTAa MAHAPRANAnUbWAcYAjPADA ADEGa ADEGiNDAPfISEN-ISENjLINGSAfU",
  "HURdNGSIgMADYAfPANGKATgISELEHhTIRTA TUMETESnWINDUiNGKONdRANGKEPlRIGHT RERENGGANpSIGN CECAKa TE",
  "LUkLAYARfPANYANGGAjWIGNYANmTURNED PADA PISELEHtVOWEL SIGN DIRGA MUREkPEPETfSUKUa MENDUTlTALING",
  "eRUNGfOLONGgWULUa MELIK+dEANSeIGSAW PUZZLE PIECEsOINcYSTICKhUGGLINGgNOcPITERhKAABAdITHI ABBREV",
  "IATION SIGNrDANDAeOUBLE DANDAfSECTION MARKtENUMERATION SIGNqLETTER AaAbIbUcBAbHAdCAbHAdDAbDAbD",
  "HAdHAdHAdEbGAbHAdHAcIaIcJAbHAdKAbHAdLAcMAcNAbGAcNAcYAdObPAbHAdRAbHAdSAbHAcSAdTAbHAcTAbHAeUaUcV",
  "AcYAjNUMBER SIGNa ABOVErSECTION MARKlIGN ANUSVARAiCANDRABINDUlNUKTAfVIRAMAeSARGAmVOWEL SIGN AA",
  "bIbUcEbIaIcObUaUcVOCALIC RzNGAROOeXI RADICAL AGAINeNDcRRIVEdOWeXEdBADGEReMBOOfEANdIGbRDcTTERfL",
  "ACKdOODdUEdOATcDYcLT OF CLOTHlNEcWcRANCHeISTLEfUSHfCARTcULDRONgVEdHILDeITYdLANbWcIFFdOTHESgOLO",
  "RdMPAREfRPSEeVERdWdDEATHdERdIPPEReSHbTINGUISHjVINATIONjO NOTeGbORcTaTED CLIFFfTENTjUBLE XgWN B",
  "OXhRAGONeUMcYdEARaTHdTcIGHTeMBROIDERYjNCLOSUREhTEReVENaINGgYEdFACEcNGcTHERfEATHERgIELDdGHTdREc",
  "SHdLUTEdYcOOTdRAGRANTgOGdURdGATEdHOSTeOa SLOWLYhLDdRAINcSSfHAIRcLBERDeF TREE TRUNKnNDdEADbRTdM",
  "PdIDING ENCLOSUREpOOKcRNbSEfICEcNCHcSECTgJADEcRdKNIFEfLACKcMEdEAFbTHERfEKcGSdIDbFEcNEdONGa STR",
  "IDElMANcEATcLONeILLETeNISTERhOONcRNINGeTAReUNDbTAINfTHfNETcOSEcTdOLDcNEaSELFgPEN BOXgPOSEgPIGc",
  "LOWdOWEReRIVATEfOFOUNDiRAINcPbTcEDcICEcGHT OPEN BOXmVEReOOFdUNdSACRIFICIAL WINEoLTcYcCHOLARfRI",
  "PTfEALcCONDeEbLFdHEEPcLLdOOTcRT TAILED BIRDkHREADlICKNESSgLKdKINdLASHcVEdICEeMALLeNOUTeOUNDePE",
  "ARcECHeIRITeOONdROUTfQUAREfTANDdEAMcPcONEcPaPINGhUNcWEETfTABLEdLLcNNED LEATHERnENcIGERdLEdONGU",
  "EeOTHeRACKdEEcIPODfURBANdTLEfWOa HANDSjUSEdVALLEYfILLAGEhWALKa ENCLOSUREmTEReEAPONeSTdHEATdITE",
  "eINDbEdOMANdRKdRAPcONGfYELLOWsNADA AI LENGTH MARKoDIGIT EIGHTfFIVEdOUReNINEeONEdSEVENeIXdTHREE",
  "eWOdZEROkLENGTH MARKjTTER AaAbIbUcBAbHAdCAbHAdDAbDAbHAdHAdEaEcFAcGAbHAdHAcIaIcJAbHAdKAbHAdLAbL",
  "AbLAeMAcNAaKAARA POLLUmGAcNAcYAdOaOcPAbHAdRAbRAdSAbHAcSAdTAbHAcTAbHAeUaUcVAbOCALIC LaLcRaRkYAj",
  "SIGN ANUSVARAhVAGRAHAiCANDRABINDUlJIHVAMULIYAlNUKTAfSIDDHAMgPACING CANDRABINDUtUPADHMANIYAlVIR",
  "AMAeSARGAmVOWEL SIGN AAbIbUcEaEcIaIcOaOcUaUcVOCALIC LaLcRaR+bTAKANA DIGRAPH KOTOmITERATION MAR",
  "KoLETTER AaRCHAIC EbWUcYEbIkBAbEbIbObUcDAbEbIbObUcEbGAbEbIbObUcHAbEbIbObUcIbKAbEbIbObUcMAbEbIa",
  "NNAN NASALIZED TONE-1b2b3b4b5b7b8qTONE-2b3b4b5b7b8mObUcNaAbEbIbObUcObPAbEbIbObUcRAbEbIbObUcSAb",
  "EbIbMALL AbEbHAbEbIbObUcIbKAbEbUcMUcNaUcObRAbEbIbObUcSIbUcTObUcUbWAbEbIbOcYAbObUhObUcTAbEbIbOb",
  "UcUbVAbEbIbObUcWAbEbIbOcYAbObUcZAbEbIbObUjMIDDLE DOTkVOICED ITERATION MARKw-HIRAGANA DOUBLE HY",
  "PHENnPROLONGED SOUND MARKuSEMI-VOICED SOUND MARKwVOICED SOUND MARK+hYAH LI DIGIT EIGHTfFIVEdOU",
  "ReNINEeONEdSEVENeIXdTHREEeWOdZEROkLETTER AbBAcCAcDAcGAcHAbTAdIbKAbHAdLAcMAcNAbGAcYAdOEbOcPAbHA",
  "dRAcSAbHAdTAbHAdVAcWAcYAcZAjSIGN CWIdSHYAjTONE CALYAa PLOPHUmPLOPHUlVOWEL EaEcObUaEqELVIN SIGN",
  "jYaBOARDa AND MOUSEpCAP TENjHAROSHTHI DIGIT FOUReONEdTHREEeWOjFRACTION ONE HALFrLETTER AbBAbHA",
  "dCAbHAdDAbDAbHAdHAdGAbHAdHAcJAcKAbHAcKAdLAcMAcNAbNAcYAdPAbHAdRAcSAbHAcSAdTAbHAcTAbHAcTAbHAfVAb",
  "HAdYAcZAjNUMBER ONE HUNDREDhTHOUSANDmTENcWENTYnPUNCTUATION CIRCLEfRESCENT BARmDANDAeOTbUBLE DA",
  "NDAmLINESeOTUSfMANGALAMiSMALL CIRCLEySIGN ANUSVARAiBAR ABOVEjCAUDAfDOT BELOWhUBLE RING BELOWrV",
  "ISARGAmVIRAMAfOWEL LENGTH MARKlSIGN EbIbObUbVOCALIC R+dITAN SMALL SCRIPT CHARACTER-18B00b1b2b3",
  "b4b5b6b7b8b9bAbBbCbDbEbFc10b1b2b3b4b5b6b7b8b9bAbBbCbDbEbFc20b1b2b3b4b5b6b7b8b9bAbBbCbDbEbFc30b",
  "1b2b3b4b5b6b7b8b9bAbBbCbDbEbFc40b1b2b3b4b5b6b7b8b9bAbBbCbDbEbFc50b1b2b3b4b5b6b7b8b9bAbBbCbDbEb",
  "Fc60b1b2b3b4b5b6b7b8b9bAbBbCbDbEbFc70b1b2b3b4b5b6b7b8b9bAbBbCbDbEbFc80b1b2b3b4b5b6b7b8b9bAbBbC",
  "bDbEbFc90b1b2b3b4b5b6b7b8b9bAbBbCbDbEbFcA0b1b2b3b4b5b6b7b8b9bAbBbCbDbEbFcB0b1b2b3b4b5b6b7b8b9b",
  "AbBbCbDbEbFcC0b1b2b3b4b5b6b7b8b9bAbBbCbDbEbFcD0b1b2b3b4b5b6b7b8b9bAbBbCbDbEbFcE0b1b2b3b4b5b6b7",
  "b8b9bAbBbCbDbEbFcF0b1b2b3b4b5b6b7b8b9bAbBbCbDbEbFdC00b1b2b3b4b5b6b7b8b9bAbBbCbDbEbFc10b1b2b3b4",
  "b5b6b7b8b9bAbBbCbDbEbFc20b1b2b3b4b5b6b7b8b9bAbBbCbDbEbFc30b1b2b3b4b5b6b7b8b9bAbBbCbDbEbFc40b1b",
  "2b3b4b5b6b7b8b9bAbBbCbDbEbFc50b1b2b3b4b5b6b7b8b9bAbBbCbDbEbFc60b1b2b3b4b5b6b7b8b9bAbBbCbDbEbFc",
  "70b1b2b3b4b5b6b7b8b9bAbBbCbDbEbFc80b1b2b3b4b5b6b7b8b9bAbBbCbDbEbFc90b1b2b3b4b5b6b7b8b9bAbBbCbD",
  "bEbFcA0b1b2b3b4b5b6b7b8b9bAbBbCbDbEbFcB0b1b2b3b4b5b6b7b8b9bAbBbCbDbEbFcC0b1b2b3b4b5b6b7b8b9bAb",
  "BbCbDbEbFcD0b1b2b3b4b5pFILLERyMER CURRENCY SYMBOL RIELuDIGIT EIGHTfFIVEdOUReNINEeONEdSEVENeIXd",
  "THREEeWOdZEROkINDEPENDENT VOWEL LYaYdQAAbIbQbUcEbIaIcOO TYPE ONEdTWOlUaKbUaVeRYaYvLETTER BAcCA",
  "bHAbOcOcDAbOcHAcKAbHAbOcOcLAbOcMOcNGOcNOcObYOdPHAbOcOcQAcROcSAbHAcSOdTAbHAbOcObTHAbOeVOcYOjSIG",
  "N AHSDAeTTHACANhVAKRAHASANYAnBANTOCeRIYOOSANiTHAMASATjEYYALgCAMNUC PII KUUHoOENGfKAKABATgHANdO",
  "OMUUThLEK TOOhMUUSIKATOANlNIKAHIThPHNAEK MUANlREAHMUKgOBATfSAMYOK SANNYAnTOANDAKHIATkRIISAPhVI",
  "RIAMgYUUKALEAPINTUrYMBOL BEI KOETeROCgUON KOETeROCiDAP KOETeROCe-BEI KOETeROCgUON KOETeROCiMUO",
  "Y KOETeROCiPII KOETeROCgRAM KOETeROCmLEK ATTAK BEIcUONeMUOYePIIcRAMa-BEIcUONeMUOYePIIiSONnMUOY",
  " KOETeROCiPATHAMASATjII KOETeROCgRAM KOETeROCe-BEI KOETeROCgUON KOETeROCiMUOY KOETeROCiPII KOE",
  "TeROCmTUTEYASATqVOWEL INHERENT AAbQlSIGN AAbEbIbUcEbIaEbIcOEbOcUaAbUcYaAbYrOJKI ABBREVIATION S",
  "IGNrDANDAeOUBLE DANDAfSECTION MARKtLETTER AaAbIbUcBAbBAcHAdCAbHAdDAbDAbDAcHAdHAdEbGAbGAcHAdHAc",
  "IbJAbJAdKAbHAdLAbLAdMAcNAbGAcNAcYAdObPAbHAdRAcSAcTAbHAcTAbHAeUbVAcYAjSECTION MARKlIGN ANUSVARA",
  "iNUKTAfSHADDAfUKUNfVIRAMAlVOWEL SIGN AAbIbUcEbIaIcObUmWORD SEPARATORtUDAWADI DIGIT EIGHTfFIVEd",
  "OUReNINEeONEdSEVENeIXdTHREEeWOdZEROkLETTER AaAbIbUcBAbBAcHAdCAbHAdDAbDAbDAcHAdHAdEbGAbGAcHAdHA",
  "cIaIcJAbHAcJAdKAbHAdLAcMAcNAbGAcNAcYAdObPAbHAdRAbRAdSAbHAdTAbHAcTAbHAeUaUcVAcYAjSIGN ANUSVARAi",
  "NUKTAfVIRAMAlVOWEL SIGN AAbIbUcEbIaIcObUaUwIMONOeP SIGNgSSa MARKfING CAT FACE WITH CLOSED EYES",
  "zFACEa WITH CLOSED EYESlSMILING EYES+cTEcWIFRUITiNEELING PERSONnOTdOALAdREAN STANDARD SYMBOLvR",
  "ONOSgL B BAR SYMBOLnAB COATfELdCROSSE STICK AND BALLvDDERdY BEETLEjNGUAGE TAGkO CANCELLATION M",
  "ARKrDIGIT EIGHTfFIVEdOUReNINEeONEdSEVENeIXdTHREEeWOdZEROkELLIPSISiHO MOcNOfKO LAfLETTER BOcCOc",
  "DOcFO FAYcONdSUNGeTAMgHO SUNGeTAMgKHMU GOcNYOgO SUNGeTAMgOcLOa LINGdOOThMOcNGOcObYOdObPALI BHA",
  "dCHAdDDAbHAdHAdGHAdJHAdLLAdNNAcYAdTTAbHAiHO SUNGeTAMgOcROcSANSKRIT SHAcSAlO SUNGeTAMgTHO SUNGe",
  "TAMgOcWOcYOjNIGGAHITAjSEMIVOWEL SIGN LOcNYOrIGN PALI VIRAMAqTONE MAI CATAWAgEKcTHOcIlVOWEL SIG",
  "N AaAbIbMbYcEaIcIaIcMAI KANcONhObUaUcYaYpRGE BLUE CIRCLEgDIAMONDhSQUAREkROWN CIRCLEgSQUAREmCIR",
  "CLEgDOWN TACKjGREEN CIRCLEgSQUAREmLEFT TRIANGLE OPERATORwONE DOT OVER TWO DOTS PUNCTUATION+dRI",
  "NG OVER TWO RINGS PUNCTUATION+iRANGE CIRCLEgDIAMONDhSQUAREnPURPLE CIRCLEgSQUAREnRED CIRCLEgSQU",
  "AREkTRIPLE VERTICAL BAR OPERATOR+bWO DOTS OVER ONE DOT PUNCTUATION+dRINGS OVER ONE RING PUNCTU",
  "ATION+jUP TACKhYELLOW CIRCLEgSQUAREoR THANa OR EQUAL TOuI SIGNhST QUARTER MOONa SYMBOLgWITH FA",
  "CEzTIN CAPITAL LETTER Aa WITH ACUTEfBREVEa AND ACUTEfDOT BELOWjGRAVEfHOOK ABOVEkTILDEpCARONeIR",
  "CUMFLEXa AND ACUTEfDOT BELOWjGRAVEfHOOK ABOVEkTILDEuDIAERESISa AND MACRONtOT ABOVEa AND MACRON",
  "qBELOWhUBLE GRAVEmGRAVEfHOOK ABOVEkINVERTED BREVEoMACRONgOGONEKgRING ABOVEa AND ACUTEpBELOWkST",
  "ROKEgTILDElAbEa WITH ACUTEfMACRONnFRICAN DiLPHAeNGLICANA WkObUbVa WITH HORIZONTAL BARvYcBa WIT",
  "H DOT ABOVEfBELOWjFLOURISHiHOOKeLINE BELOWkSTROKEgTOPBARmETAdROKEN LiCa WITH ACUTEfBARdCARONeE",
  "DILLAa AND ACUTEqIRCUMFLEXkDOT ABOVEjHOOKePALATAL HOOKmSTROKEmHIcLOSED INSULAR GpONcUATRILLOa ",
  "WITH COMMAuDa WITH CARONeEDILLAgIRCUMFLEX BELOWqDOT ABOVEfBELOWjHOOKeLINE BELOWkSHORT STROKE O",
  "VERLAYtMALL LETTER Za WITH CARONyTROKEgTOPBARmZa WITH CARONnEa WITH ACUTEfBREVEfCARONeEDILLAa ",
  "AND BREVEqIRCUMFLEXa AND ACUTEfDOT BELOWjGRAVEfHOOK ABOVEkTILDEjBELOWqDIAERESISiOT ABOVEfBELOW",
  "hUBLE GRAVEmGRAVEfHOOK ABOVEkINVERTED BREVEoMACRONa AND ACUTEfGRAVEqOGONEKgSTROKEgTILDEa BELOW",
  "rGYPTOLOGICAL AINcLEFrNGcSHcTaHcZHa REVERSEDiWITH CARONoFa WITH DOT ABOVEjHOOKeSTROKEnGa WITH ",
  "ACUTEfBREVEfCARONeEDILLAgIRCUMFLEXkDOT ABOVEjHOOKeMACRONgOBLIQUE STROKEoSTROKEmAMMAeHAcLOTTAL ",
  "AbIbSTOPeUjHa WITH BREVE BELOWlCARONeEDILLAgIRCUMFLEXkDESCENDERiIAERESISiOT ABOVEfBELOWjHOOKeS",
  "TROKEmALF HfENGdWAIRfIa WITH ACUTEfBREVEfCARONeIRCUMFLEXkDIAERESISa AND ACUTEsOT ABOVEfBELOWhU",
  "BLE GRAVEmGRAVEfHOOK ABOVEkINVERTED BREVEoMACRONgOGONEKgSTROKEgTILDEa BELOWrNSULAR DbFbGbRbSbT",
  "iOTAdScJa WITH CIRCUMFLEXjROSSED-TAILmSTROKEnKa WITH ACUTEfCARONeEDILLAhDESCENDERiIAGONAL STRO",
  "KEoOT BELOWjHOOKeLINE BELOWkOBLIQUE STROKEoSTROKEa AND DIAGONAL STROKE+hLa WITH ACUTEfBARcELTe",
  "CARONeEDILLAgIRCUMFLEX BELOWqDOT BELOWa AND MACRONsUBLE BARkHIGH STROKElLINE BELOWkMIDDLE DOTd",
  "TILDEmSMALL LETTER JnTROKEmJcMa WITH ACUTEfDOT ABOVEfBELOWjHOOKkIDDLE SCOTS Si-WELSH LLcVoNa W",
  "ITH ACUTEfCARONeEDILLAgIRCUMFLEX BELOWqDESCENDERiOT ABOVEfBELOWjGRAVEfLEFT HOOKiINE BELOWjONG ",
  "RIGHT LEGoOBLIQUE STROKEoSMALL LETTER JoTILDElJcOa WITH ACUTEfBREVEfCARONeIRCUMFLEXa AND ACUTE",
  "fDOT BELOWjGRAVEfHOOK ABOVEkTILDEuDIAERESISa AND MACRONtOT ABOVEa AND MACRONqBELOWhUBLE ACUTEf",
  "GRAVEmGRAVEfHOOK ABOVEiRNa AND ACUTEfDOT BELOWjGRAVEfHOOK ABOVEkTILDEoINVERTED BREVEoLONG STRO",
  "KE OVERLAYrOPeMACRONa AND ACUTEfGRAVEpIDDLE TILDEmOGONEKa AND MACRONrSTROKEa AND ACUTEqTILDEa ",
  "AND ACUTEfDIAERESISjMACRONwIbLD POLISH OlMEGAeObPEN EbOfUcPa WITH ACUTEfDOT ABOVEjFLOURISHiHOO",
  "KeSQUIRREL TAILmTROKEa THROUGH DESCENDER+fQa WITH DIAGONAL STROKEpSTROKE THROUGH DESCENDER+fRa",
  " ROTUNDAhWITH ACUTEfCARONeEDILLAhDOT ABOVEfBELOWa AND MACRONsUBLE GRAVEmINVERTED BREVEoLINE BE",
  "LOWkOBLIQUE STROKEoSTROKEgTAILkEVERSED C WITH DOTkEbHALF HgOPEN EoUM ROTUNDAlSa WITH ACUTEa AN",
  "D DOT ABOVEtCARONa AND DOT ABOVEsEDILLAgIRCUMFLEXjOMMA BELOWlDOT ABOVEfBELOWa AND DOT ABOVExHO",
  "OKeOBLIQUE STROKEoSHORT STROKE OVERLAYtWASH TAILqALTILLOhCHWAdRIPT GhHARP SgIGMOID SiMALL CAPI",
  "TAL IjQ WITH HOOK TAILwTa WITH CARONeEDILLAgIRCUMFLEX BELOWpOMMA BELOWlDIAGONAL STROKEoOT ABOV",
  "EfBELOWjHOOKeLINE BELOWkRETROFLEX HOOKoSTROKEmHORNa WITH STROKEa THROUGH DESCENDER+iONE FIVEeS",
  "IXdTWOhRESILLOhURNED AaLPHAfHbINSULAR GjKbLbMbTbVhZcUa BARdWITH ACUTEfBREVEfCARONeIRCUMFLEXa B",
  "ELOWqDIAERESISa AND ACUTEfCARONfGRAVEfMACRONkBELOWoOT BELOWhUBLE ACUTEfGRAVEmGRAVEfHOOK ABOVEi",
  "RNa AND ACUTEfDOT BELOWjGRAVEfHOOK ABOVEkTILDEoINVERTED BREVEoMACRONa AND DIAERESISuOGONEKgRIN",
  "G ABOVEkSTROKEgTILDEa AND ACUTEjBELOWrPSILONhVa WITH DIAGONAL STROKEoOT BELOWjHOOKeTILDElENDdI",
  "SIGOTHIC ZlOLAPUK AEcOEcUEjYcWa WITH ACUTEfCIRCUMFLEXkDIAERESISiOT ABOVEfBELOWjGRAVEfHOOKkYNNe",
  "Xa WITH DIAERESISiOT ABOVEqYa WITH ACUTEfCIRCUMFLEXkDIAERESISiOT ABOVEfBELOWjGRAVEfHOOKa ABOVE",
  "kLOOPeMACRONgSTROKEgTILDElOGHeZa WITH ACUTEfCARONeIRCUMFLEXkDESCENDERiOT ABOVEfBELOWjHOOKeLINE",
  " BELOWkPALATAL HOOKmSTROKEfWASH TAILxIGATURE IJcOEsROSSfEPIGRAPHIC LETTER ARCHAIC MjI LONGAgNV",
  "ERTED MkREVERSED FbPkSIDEWAYS I+cLETTER AINcLVEOLAR CLICKoBIDENTAL PERCUSSIVErLABIAL CLICKfPER",
  "CUSSIVEtDENTAL CLICKmGLOTTAL STOPa WITH STROKEyINVERTED GLOTTAL STOPa WITH CURLeSTROKE+hLATERA",
  "L CLICKnPHARYNGEAL VOICED FRICATIVE+bRETROFLEX CLICKa WITH RETROFLEX HOOK+hVERSED ESH LOOPiGLO",
  "TTAL STOP WITH STROKE+hSINOLOGICAL DOToMALL CAPITAL AaEcBaARRED BiCbDbEaTHcZHdFbGa WITH HOOKlH",
  "bIaNVERTED RkJbKbLa WITH BELTeSTROKEnMbNbOaEbPEN OfUcPbQbRa WITH RIGHT LEGpEVERSED NbRjUMdSbTa",
  "URNED EbGbKbMbRiUbVbWbYbZoTRETCHED Ca WITH CURLvTWO WITH STROKEpVOICED LARYNGEAL SPIRANTyWYNNe",
  "YRjSMALL CAPITAL LETTER I WITH STROKEnU WITH STROKE+cLETTER Aa REVERSED-SCHWAoWITH ACUTEfBREVE",
  "a AND ACUTEfDOT BELOWjGRAVEfHOOK ABOVEkTILDEpCARONeIRCUMFLEXa AND ACUTEfDOT BELOWjGRAVEfHOOK A",
  "BOVEkTILDEuDIAERESISa AND MACRONtOT ABOVEa AND MACRONqBELOWhUBLE GRAVEmGRAVEfHOOK ABOVEkINVERT",
  "ED BREVEoMACRONgOGONEKgRETROFLEX HOOKnIGHT HALF RINGnNG ABOVEa AND ACUTEpBELOWkSTROKEgTILDElAb",
  "Ea WITH ACUTEfMACRONnLPHAa WITH RETROFLEX HOOKyNGLICANA WkObUbVa WITH HORIZONTAL BARvYcBa WITH",
  " DOT ABOVEfBELOWjFLOURISHiHOOKeLINE BELOWkMIDDLE TILDEmPALATAL HOOKmSTROKEgTOPBARmARRED ALPHAf",
  "EbOgSELINE ESHlETAdLACKLETTER EbOa WITH STROKEyOTTOM HALF OmROKEN LiCa WITH ACUTEfBARdCARONeED",
  "ILLAa AND ACUTEqIRCUMFLEXjURLeDOT ABOVEjHOOKePALATAL HOOKmRETROFLEX HOOKoSTROKEmHIa WITH LOW L",
  "EFT SERIFkRIGHT RINGwLOSED INSULAR GjOMEGAePEN EgREVERSED OPEN EvONcUATRILLOa WITH COMMAuDa WI",
  "TH CARONeEDILLAgIRCUMFLEX BELOWpURLeDOT ABOVEfBELOWjHOOKa AND TAILnLINE BELOWkMIDDLE TILDEmPAL",
  "ATAL HOOKmSHORT STROKE OVERLAYtTROKEgTAILdOPBARmB DIGRAPHjELTAdZH DIGRAPHa WITH PALATAL HOOKmR",
  "ETROFLEX HOOK+fOTLESS IbJa WITH STROKEa AND HOOK+cUBLE Ra WITH CROSSED-TAILtTHORNfWYNNkUMcZa D",
  "IGRAPHa WITH CURLeRETROFLEX HOOK+bWITH CARONnEa WITH ACUTEfBREVEfCARONeEDILLAa AND BREVEqIRCUM",
  "FLEXa AND ACUTEfDOT BELOWjGRAVEfHOOK ABOVEkTILDEjBELOWqDIAERESISiOT ABOVEfBELOWhUBLE GRAVEmFLO",
  "URISHiGRAVEfHOOK ABOVEkINVERTED BREVEoMACRONa AND ACUTEfGRAVEqNOTCHfOGONEKgRETROFLEX HOOKoSTRO",
  "KEgTILDEa BELOWrGYPTOLOGICAL AINcLEFrNGa WITH CROSSED-TAILmPALATAL HOOKuSHa WITH CURLeDOUBLE B",
  "ARa AND CURLtPALATAL HOOKmRETROFLEX HOOKwTaHcZHa REVERSEDiWITH CARONeURLePALATAL HOOKmRETROFLE",
  "X HOOKoTAILnFa WITH DOT ABOVEjHOOKeMIDDLE TILDEmPALATAL HOOKmSTROKEmENG DIGRAPHa WITH TRILLxGa",
  " WITH ACUTEfBREVEfCARONeEDILLAgIRCUMFLEXkDOT ABOVEjHOOKeMACRONgOBLIQUE STROKEoPALATAL HOOKmSTR",
  "OKEmAMMAeHAcLOTTAL AbIbSTOPeUjHa WITH BREVE BELOWlCARONeEDILLAgIRCUMFLEXkDESCENDERiIAERESISiOT",
  " ABOVEfBELOWjHOOKeLINE BELOWkPALATAL HOOKmSTROKEmALF HfENGa WITH HOOKnVcIa WITH ACUTEfBREVEfCA",
  "RONeIRCUMFLEXkDIAERESISa AND ACUTEsOT BELOWhUBLE GRAVEmGRAVEfHOOK ABOVEkINVERTED BREVEoMACRONg",
  "OGONEKgRETROFLEX HOOKoSTROKEa AND RETROFLEX HOOKzTILDEa BELOWrNSULAR DbFbGbRbSbThVERTED ALPHAf",
  "OEkOTAa WITH STROKEnIFIED EjScJa WITH CARONeIRCUMFLEXjROSSED-TAILmSTROKEnKa WITH ACUTEfCARONeE",
  "DILLAhDESCENDERiIAGONAL STROKEoOT BELOWjHOOKeLINE BELOWkOBLIQUE STROKEoPALATAL HOOKmSTROKEa AN",
  "D DIAGONAL STROKE+gRAdLa WITH ACUTEfBARcELTa AND PALATAL HOOKvCARONeEDILLAgIRCUMFLEX BELOWpURL",
  "eDOT BELOWa AND MACRONsUBLE BARdMIDDLE TILDEtFISHHOOKiHIGH STROKElINVERTED LAZY SpLINE BELOWkM",
  "IDDLE DOTdRINGeTILDEmPALATAL HOOKmRETROFLEX HOOKa AND BELTxSTROKEmAMBDA WITH STROKErENIS FfZHa",
  " WITH RETROFLEX HOOKxJbONG Sa WITH DIAGONAL STROKEoOT ABOVEjHIGH STROKEwS DIGRAPHjUMcZ DIGRAPH",
  "kMa WITH ACUTEfCROSSED-TAILmDOT ABOVEfBELOWjHOOKeMIDDLE TILDEmPALATAL HOOKsIDDLE SCOTS Si-WELS",
  "H LLcVnUMdNa PRECEDED BY APOSTROPHEwWITH ACUTEfCARONeEDILLAgIRCUMFLEX BELOWpROSSED-TAILlURLeDE",
  "SCENDERiOT ABOVEfBELOWjGRAVEfLEFT HOOKiINE BELOWjONG RIGHT LEGoMIDDLE TILDEmOBLIQUE STROKEoPAL",
  "ATAL HOOKmRETROFLEX HOOKoTILDElJbUMdOa WITH ACUTEfBREVEfCARONeIRCUMFLEXa AND ACUTEfDOT BELOWjG",
  "RAVEfHOOK ABOVEkTILDEuDIAERESISa AND MACRONtOT ABOVEa AND MACRONqBELOWhUBLE ACUTEfGRAVEmGRAVEf",
  "HOOK ABOVEiRNa AND ACUTEfDOT BELOWjGRAVEfHOOK ABOVEkTILDEoINVERTED BREVEoLONG STROKE OVERLAYrO",
  "PcW RING INSIDEpMACRONa AND ACUTEfGRAVEqOGONEKa AND MACRONrRETROFLEX HOOKoSTROKEa AND ACUTEqTI",
  "LDEa AND ACUTEfDIAERESISjMACRONwIbLD POLISH OlMEGAeObPEN Ea WITH RETROFLEX HOOKvOa WITH RETROF",
  "LEX HOOKoSTROKEmEgUcPa WITH ACUTEfDOT ABOVEjFLOURISHiHOOKeMIDDLE TILDEmPALATAL HOOKmSQUIRREL T",
  "AILmTROKEa THROUGH DESCENDER+eHIdQa WITH DIAGONAL STROKEpHOOKa TAILjSTROKE THROUGH DESCENDER+e",
  "P DIGRAPHkRa ROTUNDAhWITH ACUTEfCARONeEDILLAgROSSED-TAILmDOT ABOVEfBELOWa AND MACRONsUBLE GRAV",
  "EmFISHHOOKa AND MIDDLE TILDEmPALATAL HOOKzINVERTED BREVEoLINE BELOWjONG LEGiMIDDLE TILDEmOBLIQ",
  "UE STROKEoPALATAL HOOKmSTROKEgTAILfOUT HANDLEpAMS HORNiEVERSED Ca WITH DOTkEaNGdHALF HgKbOPEN ",
  "Ea WITH HOOKeRETROFLEX HOOK+aR WITH FISHHOOKpSCRIPT GqUMa ROTUNDAlSa WITH ACUTEa AND DOT ABOVE",
  "tCARONa AND DOT ABOVEsEDILLAgIRCUMFLEXjOMMA BELOWkURLeDOT ABOVEfBELOWa AND DOT ABOVExHOOKeMIDD",
  "LE TILDEmOBLIQUE STROKEoPALATAL HOOKmSHORT STROKE OVERLAYtWASH TAILqAKHA YAThLTILLOhCHWAa WITH",
  " HOOKeRETROFLEX HOOKxRIPT Ga WITH CROSSED-TAILtRa WITH RINGrHARP SgIDEWAYS DIAERESIZED UnOa WI",
  "TH STROKEmPEN OgTURNED MiUiGMOID SiQUAT REVERSED ESHrTIRRUP RjTa WITH CARONeEDILLAgIRCUMFLEX B",
  "ELOWpOMMA BELOWkURLeDIAERESISgGONAL STROKEoOT ABOVEfBELOWjHOOKa AND RETROFLEX HOOKxLINE BELOWk",
  "MIDDLE TILDEmPALATAL HOOKmRETROFLEX HOOKoSTROKEmAILLESS PHIlC DIGRAPH WITH CURLtESH DIGRAPHa W",
  "ITH PALATAL HOOKmRETROFLEX HOOK+fH WITH STRIKETHROUGHtORNa WITH STROKEa THROUGH DESCENDER+iONE",
  " FIVEeSIXdTWOgP HALF OjRESILLOhS DIGRAPHa WITH RETROFLEX HOOK+dUMbRNED AaEbLPHAfDELTAfEbGbHa W",
  "ITH FISHHOOKa AND TAILyIaNSULAR GjKbLbMa WITH LONG LEGpO OPEN-Oa WITH STROKEtEa WITH HORIZONTA",
  "L STROKErSTROKEnPEN EgRa WITH HOOKeLONG LEGa AND RETROFLEX HOOK+bMIDDLE TILDEmPALATAL HOOKmTAI",
  "LlTa WITH CURLlUIcVbWbYa WITH BELTrZcUa BARa WITH SHORT RIGHT LEGyWITH ACUTEfBREVEfCARONeIRCUM",
  "FLEXa BELOWqDIAERESISa AND ACUTEfCARONfGRAVEfMACRONkBELOWoOT BELOWhUBLE ACUTEfGRAVEmGRAVEfHOOK",
  " ABOVEiRNa AND ACUTEfDOT BELOWjGRAVEfHOOK ABOVEkTILDEoINVERTED BREVEoLEFT HOOKjMACRONa AND DIA",
  "ERESISuOGONEKgRETROFLEX HOOKnING ABOVEkSHORT RIGHT LEGoTROKEgTILDEa AND ACUTEjBELOWrEbIbMbObPS",
  "ILONa WITH STROKEtVa WITH CURLeDIAGONAL STROKEoOT BELOWjHOOKePALATAL HOOKmRIGHT HOOKkTILDElEND",
  "dISIGOTHIC ZlOLAPUK AEcOEcUEjYcWa WITH ACUTEfCIRCUMFLEXkDIAERESISiOT ABOVEfBELOWjGRAVEfHOOKeRI",
  "NG ABOVErXa WITH DIAERESISiOT ABOVEjLONG LEFT LEGa AND LOW RIGHT RINGsWITH SERIFwW RIGHT RINGo",
  "PALATAL HOOKtYa WITH ACUTEfCIRCUMFLEXkDIAERESISiOT ABOVEfBELOWjGRAVEfHOOKa ABOVEkLOOPeMACRONgR",
  "ING ABOVEkSHORT RIGHT LEGoTROKEgTILDElOGHeZa WITH ACUTEfCARONeIRCUMFLEXjURLeDESCENDERiOT ABOVE",
  "fBELOWjHOOKeLINE BELOWkMIDDLE TILDEmPALATAL HOOKmRETROFLEX HOOKoSTROKEfWASH TAILxIGATURE FFaIb",
  "LcIbLcIJcLONG S TiOEcSTqUBSCRIPT SMALL LETTER AbEbHbIbJbKbLbMbNbObPbRbSaCHWAfTbUbVbX+dEAF FLUT",
  "TERING IN WINDtY GREENjDGEReFT AND LOWER AND RIGHT TRIANGULAR THREE QUARTERS BLOCK+pONE EIGHTH",
  " BLOCKwRIGHT DOUBLE TURNSTILEqTACKdRIANGULAR HALF BLOCK+bUPPER AND RIGHT TRIANGULAR THREE QUAR",
  "TERS BLOCK+pONE EIGHTH BLOCKyGER BUBBLEjLE BRACKETa WITH DOTvRC LESS-THAN BRACKETtROW WITH CIR",
  "CLED PLUSmSMALL CIRCLExBARB DOWN RIGHT BARB DOWN HARPOONmUP HARPOON+aUP RIGHT BARB DOWN HARPOO",
  "NmUP HARPOON+cLACK LENTICULAR BRACKETsTORTOISE SHELL BRACKET+cCEILINGgLOSED ENTRYlORNER BRACKE",
  "TnURLY BRACKETa LOWER HOOKkMIDDLE PIECEmUPPER HOOKyDOTTED SUBSTITUTION BRACKETzUBLE ANGLE BRAC",
  "KETnPARENTHESISlQUOTATION MARKoWIGGLY FENCEtFISH TAILhVE EIGHTHS BLOCKrLOORfHALF BLACK CIRCLEg",
  "STARiOCKfCIRCLEa WITH DOTdFOUR DOTSjTHREE DOTSjWO DOTSuFOLDERgINVERSE MEDIUM SHADE AND RIGHT H",
  "ALF BLOCK+pMEDIUM SHADEmRUNNING MANoND TELEPHONE RECEIVERxLOW PARAPHRASE BRACKETvUGGAGEhMULTIM",
  "APiNORMAL FACTOR SEMIDIRECT PRODUCT+gONE EIGHTH BLOCKmQUARTER BLOCKqUTER JOINkPARENTHESISa EXT",
  "ENSIONjLOWER HOOKkUPPER HOOKwRAISED OMISSION BRACKETwIGHT ARROWa THROUGH SMALL CIRCLEuWITH DOU",
  "BLE VERTICAL STROKEwSTROKEgVERTICAL STROKE+aBLACK ARROWlDOUBLE ARROWa WITH STROKEgVERTICAL STR",
  "OKE+hOPEN-HEADED ARROWrSANS-SERIF ARROWqTRIANGLE-HEADED ARROWvWAVE ARROWjHITE ARROWrS-SHAPED B",
  "AG DELIMITERvEMIDIRECT PRODUCTqVEN EIGHTHS BLOCKsIDEWAYS U BRACKETqNGLE QUOTATION MARKuPEECH B",
  "UBBLEmQUARE BRACKETa EXTENSIONjLOWER CORNERmUPPER CORNERmWITH DOUBLE STROKEnQUILLfSTROKEgTICK ",
  "IN BOTTOM CORNERnTOP CORNERsUNDERBAR+bUBSTITUTION BRACKETuTACKdHIRD WHITE RIGHT POINTING INDEX",
  "+eOUGHT BUBBLEmREE EIGHTHS BLOCKnQUARTERS BLOCKtORTOISE SHELL BRACKETvRANSPOSITION BRACKETtIAN",
  "GLE BESIDE VERTICAL BARwULAR ONE QUARTER BLOCK+cVERTICAL BAR WITH QUILLnOX LINErWHITE CORNER B",
  "RACKETnURLY BRACKETnLENTICULAR BRACKETsPARENTHESISlSQUARE BRACKEToTORTOISE SHELL BRACKET+bIGGL",
  "Y FENCElRITING HANDn-FACING ARMENIAN ETERNITY SIGNwFISTeSVASTI SIGNa WITH DOTS+cHANDED INTERLA",
  "CED PENTAGRAM+bPOINTING ANGLE BRACKETnCURVED ANGLE BRACKETuDOUBLE ANGLE QUOTATION MARK+bMAGNIF",
  "YING GLASSzSHADED WHITE RIGHTWARDS ARROW+cIDE ARC ANTICLOCKWISE ARROW+cTO-RIGHT EMBEDDINGjISOL",
  "ATEhMARKeOVERRIDEsWARDS ARROWa ABOVE ALMOST EQUAL TOpREVERSE ALMOST EQUAL TOpTILDE OPERATORwSH",
  "ORT RIGHTWARDS ARROWwTILDE OPERATORtND UPPER AND LOWER ONE EIGHTH BLOCK+kFROM BARa TO BLACK DI",
  "AMONDzOVER RIGHTWARDS ARROWvTHROUGH LESS-THANjSUBSETgXiO BARa OVER RIGHTWARDS ARROW TO BAR+fLA",
  "CK DIAMONDqWITH DOTTED STEMjUBLE VERTICAL STROKEwEQUILATERAL ARROWHEADvHOOKeLARGE TRIANGLE ARR",
  "OWHEADxOOPeMEDIUM TRIANGLE ARROWHEADzNOTCHED TAILmPLUS BELOWkSMALL EQUILATERAL ARROWHEADvTRIAN",
  "GLE ARROWHEADxTROKEgTAILa WITH DOUBLE VERTICAL STROKEwVERTICAL STROKEyIP DOWNWARDSjUPWARDSlVER",
  "TICAL STROKEv-TAILkBACK-TILTED SHADOWED WHITE ARROW+fLACK ARROWfCIRCLED WHITE ARROWyOTTOM-SHAD",
  "ED WHITE ARROWzCOMPRESSED ARROWqDASHED ARROWlOUBLE ARROWa FROM BARiWITH STROKEgVERTICAL STROKE",
  "v-TAILkDASH ARROWrFINGER-POST ARROWqRONT-TILTED SHADOWED WHITE ARROW+hHANDcRPOON OVER RIGHTWAR",
  "DS HARPOONxWITH BARB DOWN ABOVE RIGHTWARDS HARPOON WITH BARB DOWN+nBELOW LONG DASHpFROM BARiTO",
  " BARhWARDSjUP ABOVE LEFTWARDS HARPOON WITH BARB DOWN+fONG DASHjRIGHTWARDS HARPOON WITH BARB UP",
  "+lFROM BARiTO BARhWARDSyEAVY ARROWfCOMPRESSED ARROWwLEFT-SHADED WHITE ARROWxOPEN-HEADED ARROWr",
  "PAIRED ARROWSnQUADRUPLE ARROWpRIGHT-SHADED WHITE ARROWxOCKETgSANS-SERIF ARROWpQUARED ARROWkIGG",
  "LE ARROWoTOP SHADED WHITE ARROWvRIANGLE ARROWHEADk-HEADED ARROWa OVER RIGHTWARDS TRIANGLE-HEAD",
  "ED ARROW+lTO BARgWITH BOLD SHAFTkDOUBLE HORIZONTAL STROKErVERTICAL STROKEwHEAVY SHAFTlLONG TIP",
  " DOWNWARDSjUPWARDSqMEDIUM SHAFTmNARROW SHAFTmVERY HEAVY SHAFT+bDASHED ARROWmPAIRED ARROWS+aPLE",
  " ARROWfDASH ARROWqWO HEADED ARROWn-HEADED ARROW FROM BARiWITH DOUBLE VERTICAL STROKEwTAILa WIT",
  "H DOUBLE VERTICAL STROKEwVERTICAL STROKEyRIANGLE ARROWHEADStVERTICAL STROKE+aTRIPLE DASH ARROW",
  "+cWAVE ARROWjHITE ARROWa WITHIN TRIANGLE ARROWHEAD+tGbMONdOaPARDfPCHA CONSONANT SIGN KaANGeLbM",
  "bNaYIN-DOhPbRbTqDIGIT EIGHTfFIVEdOUReNINEeONEdSEVENeIXdTHREEeWOdZEROkLETTER AbBAbLAdCAbHAdDAbD",
  "AcZAdFAbLAdGAbLAdHAbLAdJAcKAbHAcLAdLAcMAbLAdNAbGAcYAdPAbHAcLAdRAcSAbHAdTAbHAcSAbHAdTAbHAeVAcWA",
  "cYAjPUNCTUATION CER-WAgNYET THYOOM TA-ROLsTA-ROLfSHOOKa CER-WAzSIGN NUKTAfRANhUBJOINED LETTER ",
  "RAcYAtVOWEL SIGN AAcEbIbOaOcUaUsSS-THAN ABOVE DOUBLE-LINE EQUAL ABOVE GREATER-THAN+kGREATER-TH",
  "AN ABOVE DOUBLE-LINE EQUAL+kLEFTWARDS ARROWpSIMILAR ABOVE GREATER-THANsOR EQUALpLANTED EQUAL A",
  "BOVE GREATER-THAN ABOVE SLANTED EQUAL++fND NOT APPROXIMATEpSINGLE-LINE NOT EQUAL TO+cBUT NOT E",
  "QUAL TOfIVALENT TOvCLOSED BY CURVEa ABOVE SLANTED EQUAL+jEQUAL TO OR GREATER-THANyOR APPROXIMA",
  "TElEQUAL TOfIVALENT TOnGREATER-THANmSLANTED EQUAL TOa WITH DOT ABOVEa RIGHTlINSIDE+iVER EQUAL ",
  "TOnSIGNeWITH CIRCLE INSIDEnDOTdQUESTION MARK ABOVE+gVEL SLIDERlFbIBRAdGATURE OPEN ET ORNAMENTw",
  "HT CHECK MARKkEIGHT SPOKED ASTERISKvFIVE POINTED BLACK STARsSPOKED ASTERISKtOUR POINTED BLACK ",
  "CUSPeSTARxGREEK CROSSlLEFT TORTOISE SHELL BRACKET ORNAMENT+kRAILdIGHT TORTOISE SHELL BRACKET O",
  "RNAMENT+lSALTIREgHADEeIX SPOKED ASTERISKtTHREE POINTED BLACK STARxWELVE POINTED BLACK STARzVER",
  "TICAL BARmWHITE SQUAREnNINGa MOODa BUBBLEtMBU DIGIT EIGHTfFIVEdOUReNINEeONEdSEVENeIXdTHREEeWOd",
  "ZEROkEXCLAMATION MARKqLETTER BAbHAdCAbHAdDAbHAdGAbHAcYANeHAcJAbHAdKAbHAdLAcMAcNAbGAdPAbHAdRAcS",
  "AbHAcSAdTAbHAcRAdWAcYAaNkQUESTION MARKnSIGN KEMPHRENGjLOOdMUKPHRENGjSA-IiMALL LETTER ANUSVARAi",
  "KAcLAcMAcNAbGAdPAcRAcTAoUBJOINED LETTER RAcWAcYAtVOWEL SIGN AaIbUcEaEcIbOaOcUh-CARRIER LETTERx",
  "ITED LIABILITY SIGNuNE FEEDeINTEGRATION NOT INCLUDING THE POLEwWITH RECTANGULAR PATH AROUND PO",
  "LE+cSEMICIRCULAR PATH AROUND POLE+uSEPARATORjTABULATIONa SETpAR A SIGN A028Be100-102g20Bd31Ce3",
  "01b2b3b4b5b6b7b8b9AbBbCd10b1b2b3AbBbCc4b5b6b7b8b9c20b1b2b3b4b5b6b7b8b9c30b1b2b3b4b5b6b7b8b9c40",
  "b1b2b3b4b5b6b7b8b9c50b1b2b3b4b5b6b7b8b9c60b1b2b3b4b5b6b7b8b9c70b1d400-VASf1-VASf2-VASf3-VASf4-",
  "VASf5-VASf6-VASf7-VASf8-VASf9-VASg10-VASf1-VASf2-VASf3-VASf4-VASf5-VASf6-VASf7-VASf8-VASh501b2",
  "b3b4b5b6b8b9c10b1b2b3b5b6c20b1b3b4b5b6b7b8b9c30b1b2b4b5b6b7b8b9c40b1b2b5b7b8b9c50b1b2b3b4b5b6b",
  "7b9c63b4b5b6b8b9c70b1b2b3b4b5b6b7b8b9c80b1b2b3b4b5b6b7b8b9c91b2b4b5b6b8d600b1b2b3b4b6b8b9c10b1",
  "b2b3b4b5b6b7b8b9c20b1b2b3b4b6b7b8b9c34b7b8c40b2b3b4b5b6b8b9c51b2b3b4b5b6b7b8b9c60b1b2b3b4d701 ",
  "Ad2 Bd3 Dd4 Ed5 Fd6 Hd7 Jd8 Kd9 Lc-2 L2e3 L3e4 L4e6 L6h10 Wd1 Xd2 Yd3 OMEGAh4 ABBf5 BBe7 DDf26",
  " EYYYh32 JEg800b1b2b3b4b5b6b7dB001b2b3b4b5b6b7b8b9c10b1b3b6b7c20b1aFbMc2aFbMc3aMc4b6b7b8b9c30b",
  "1b4b7b8b9c40b1b4b5b6b7b8b9c50b1b3b4b5b6b7b8b9c60b1b5b6b7b9c70b3b4b6b7b8b9c80b1b2b5b6b7d118c20b",
  "2b3c31AbBd64c71c80b8c91mB IDEOGRAM B100 MANf2 WOMANh4 DEERg5 EQUIDgF MAREgM STALLIONl6F EWEfM ",
  "RAMg7F SHE-GOATkM HE-GOATk8F SOWfM BOARh9F COWfM BULLi20 WHEATh1 BARLEYi2 OLIVEh3 SPICEh5 CYPE",
  "RUSk30 OILf1 WINEg2c40 BRONZEi1 GOLDg2b5 WOOLg6c50b1 HORNg2b3b4b7b8b9 CLOTHi60b1b2 GARMENTj3 A",
  "RMOURi4b5b6b7b8b9c70b1b2b3 MONTHh4b6 TREEg7b8b9c80b1b2b3b4b5b9c90b1 HELMETk220 FOOTSTOOLl5 BAT",
  "HTUBk30 SPEARh1 ARROWh2b3 SWORDh4b6c40 WHEELED CHARIOTr1 CHARIOTj2 CHARIOT FRAMEp3 WHEELh5b6b8",
  "b9c51b2b3b4 DARTg5b6b7b8b9eVESSEL B155d200b1b2b3b4b5b6b7b8b9c10b1b2b3b4b5b6b7b8b9c21b2b6b7b8b9",
  "c50d305uMONOGRAM B127 KAPOg8 KANAKOj33 AREPAh5 MERIh56 TURO2j247 DIPTEtSYLLABLE B001 DAe2 ROe3",
  " PAe4 TEe5 TOe6 NAe7 DIe8 Ad9 SEf10 Ud1 POe2 SOe3 MEe4 DOe5 MOe6 QAe7 ZAf20 ZOe1 QIe3 MUe4 NEe",
  "5 A2e6 RUe7 REe8 Id9 PU2g30 NIe1 SAe2 QOe3 RA3f6 JOe7 TIe8 Ed9 PIf40 WIe1 SIe2 WOe3 A3e4 KEe5 ",
  "DEe6 JEe8 NWAg50 PUe1 DUe2 NOe3 RIe4 WAe5 NUe7 JAe8 SUe9 TAf60 RAe1 Od2 PTEf5 JUe6 TA2f7 KIe8 ",
  "RO2f9 TUf70 KOe1 DWEf2 PEe3 MIe4 ZEe5 WEe6 RA2f7 KAe8 QEf80 MAe1 KUe5 AUe7 TWEg90 DWOf1 TWOpMB",
  "OL B018b9c22c34c47b9c56c63b4c79c82b3b6b9rK SYMBOLhED PAPERCLIPSpON FACEhPSaTICKgRA SIGNhSU LET",
  "TER AaEcBAcCAbHAdDAbZAdEaUcFAcGAbHAdHAbHAdIbJAcKAbHAdLAcMAcNAbGAdOaEcPAbHAdSAbHAdTAbHAcONE MYA",
  " BOcCYAdJEUdNAcTIgNA POjSAbHAeUaEbHcWAcXAcYAbHAdZAbHAkPUNCTUATION COMMAfFULL STOPyVRE TOURNOIS",
  " SIGNrZARDfLAMAeOBSTERfCKa WITH INK PENnING-SHIFT ONEdZEROqGICAL ANDa WITH DOT ABOVEhUBLE OVER",
  "BARhUNDERBARpHORIZONTAL DASHpMIDDLE STEMlUNDERBARrORa OVERLAPPING LOGICAL ANDxWITH DOT ABOVEhU",
  "BLE OVERBARhUNDERBARpHORIZONTAL DASHpMIDDLE STEMzLLIPOPgNG DASH FROM LEFT MEMBER OF DOUBLE VER",
  "TICAL+nIVISIONhRUMeLEFT RIGHT ARROWfDOUBLE ARROWsTACKfWARDS ARROWa FROM BARoDOUBLE ARROWa FROM",
  " BARvSQUIGGLE ARROWyRIGHT TACKfWARDS ARROWa FROM BARoDOUBLE ARROWa FROM BARvSQUIGGLE ARROW+cTI",
  "ON BOTTLEkUSdUDLY CRYING FACEqVE HOTELfLETTERjW ASTERISKiBATTERYgRIGHTNESS SYMBOLrDOUBLE PRIME",
  " QUOTATION MARK+bKAVYKAa WITH DOTpLINEfER BLADE SCISSORSoFIVE EIGHTHS BLOCKsHALF BLOCKfCIRCLEg",
  "INVERSE WHITE CIRCLEuMEDIUM SHADErLEFT BALLPOINT PENmLOCK DIAGONAL LOWER MIDDLE LEFT TO LOWER ",
  "CENTREgRIGHT+gUPPER CENTRE TO LOWER MIDDLE RIGHTmRIGHTlUPPER MIDDLE RIGHT+cLEFT TO LOWER CENTR",
  "EgMIDDLE RIGHTsUPPER MIDDLE RIGHT+aMIDDLE LEFT TO LOWER CENTREgMIDDLE RIGHTmRIGHT+vCRAYONgFOUN",
  "TAIN PENmPAINTBRUSHjENCILgQUADRANT CIRCULAR ARCvSEMICIRCULAR ANTICLOCKWISE ARROW+gTRIANGLEcULA",
  "R MEDIUM SHADE+cONE EIGHTH BLOCKmQUARTER BLOCKrRIGHT BLOCK DIAGONAL LOWER CENTRE TO LOWER MIDD",
  "LE RIGHTsUPPER MIDDLE RIGHTmRIGHTvLEFT TO LOWER MIDDLE RIGHTsUPPER CENTREgMIDDLE RIGHT+aMIDDLE",
  " LEFT TO UPPER CENTREgMIDDLE RIGHTmRIGHT+gUPPER MIDDLE LEFT TO UPPER CENTREgRIGHT+vCORNER WITH",
  " DOTpDROP-SHADOWED WHITE SQUARE+aPENCILgQUADRANT CIRCULAR ARCvSEMICIRCULAR CLOCKWISE ARROW+bHA",
  "DOWED WHITE CIRCLEgSQUAREvTRIANGLEcULAR MEDIUM SHADE+dSEVEN EIGHTHS BLOCKtTHREE EIGHTHS BLOCKn",
  "QUARTERS BLOCKtRIANGULAR ONE QUARTER BLOCK+gZENGEa DIVIDED BY HORIZONTAL RULE+hREbIbMbOcUGGAGE",
  "fNGSeYCIAN LETTER AaNcBaHcDbEaNcGbHbIbJbKaKcLbMaMcNaNcPbQbRbSbTaHbTcUbWbXbZnDIAN LETTER AaNcBb",
  "CbDbEaNcFbGbIbKbLaYcMbNaNcObQbRbSaScTaTcUbVbYiTRIANGULAR MARKuING FACE"]

end SchemaPress.Text.CharacterName
